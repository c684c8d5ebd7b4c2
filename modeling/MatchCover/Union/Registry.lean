import MatchCover.Alias.Environment
import MatchCover.Snapshot.Document
import MatchCover.Text.EditDistance

/-!
# Known unions

A type is a union if its name is that of a declared union, or if it has arguments and is built with
a generic union constructor such as `OneOf`; the variants are then its arguments.
-/

namespace MatchCover

namespace UnionDecl

inductive Fault where
  | noVariants
  /-- The variant means the same type as one before it. -/
  | repeatedVariant (variant : TypeRef)
  /-- A declaration before it has the same name. -/
  | redeclared
  deriving DecidableEq, Repr

def Fault.message : Fault → String
  | noVariants => "declares no variants"
  | repeatedVariant variant => "variant `" ++ variant.display ++ "` is listed more than once"
  | redeclared => "declared more than once"

/-- The first type that means the same as one before it, where `seen` holds the canonical forms of
those that came earlier. -/
def repeatedVariant? (env : Environment) (seen : List TypeRef) : List TypeRef → Option TypeRef
  | [] => none
  | v :: variants =>
    if env.canonical v ∈ seen then some v
    else repeatedVariant? env (env.canonical v :: seen) variants

/-- The fault of a declaration that comes after `earlier`. -/
def fault? (env : Environment) (earlier : List UnionDecl) (u : UnionDecl) : Option Fault :=
  if u.variants.isEmpty then some .noVariants
  else match repeatedVariant? env [] u.variants with
    | some v => some (.repeatedVariant v)
    | none => if u.name ∈ earlier.map (·.name) then some .redeclared else none

end UnionDecl

structure UnionType where
  /-- The type as it is written at the match. -/
  type : TypeRef
  /-- The variants in the order of declaration. -/
  variants : List TypeRef
  deriving DecidableEq, Repr

/-- The names of generic union constructors and the declared unions. -/
structure Registry where
  generic : List String
  declared : List UnionDecl

/-- The words after an unknown name that propose a known one. -/
def suggestionHint : Option String → String
  | some name => " (did you mean `" ++ name ++ "`?)"
  | none => ""

namespace Registry

/-- Adds declarations to those that came earlier, one after the other, up to the first with a
fault, which is refused. -/
def declareAfter (env : Environment) (earlier : List UnionDecl) :
    List UnionDecl → Except CheckError (List UnionDecl)
  | [] => return earlier
  | u :: decls =>
    match u.fault? env earlier with
    | some fault => throw (.invalidUnion u.name fault.message u.span)
    | none => declareAfter env (earlier ++ [u]) decls

/-- The registry of a list of declarations: each has variants, all of different types, and a name
of its own. -/
def ofDecls (generic : List String) (decls : List UnionDecl) (env : Environment) :
    Except CheckError Registry := do
  let declared ← declareAfter env [] decls
  return { generic, declared }

/-- Whether a type is built with a generic union constructor, named in full or by the last segment
of its name. -/
def isGeneric (r : Registry) (t : TypeRef) : Bool :=
  r.generic.any fun name => name == t.name || name == t.simpleName

def find? (r : Registry) (name : String) : Option UnionDecl := r.declared.find? (·.name == name)

/-- The union that a type means, if it means one. Arguments that the type spells itself are kept as
they are spelled. -/
def resolve (r : Registry) (env : Environment) (scrutinee : TypeRef) : Option UnionType :=
  let canonical := env.canonical scrutinee
  if canonical.args.isEmpty then
    (r.find? canonical.name).map fun u => ⟨scrutinee, u.variants⟩
  else if r.isGeneric canonical then
    some ⟨scrutinee, if scrutinee.name = canonical.name then scrutinee.args else canonical.args⟩
  else none

/-- How far a name may be from a declared one to be taken for a slip. -/
def slipDistance : Nat := 2

/-- The declared union of a name, or an error that proposes a similar name. -/
def lookup (r : Registry) (name : String) (span : Option Span) : Except CheckError UnionDecl :=
  match r.find? name with
  | some u => return u
  | none =>
    let candidates := (r.declared.map (·.name)).mergeSort (· ≤ ·)
    throw (.unknownUnion name (suggestionHint (Text.closest? name candidates slipDistance)) span)

end Registry

end MatchCover
