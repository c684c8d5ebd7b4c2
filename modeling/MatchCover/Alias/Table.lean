import MatchCover.TypeRef.Basic

/-!
# Alias tables

A list of bindings from names to types, where a later binding of a name replaces an earlier one.
Only a reference without arguments can be an alias; `substitute?` puts the targets in their place.
-/

namespace MatchCover

/-- Bindings in the order in which they were made. -/
abbrev AliasTable := List (String × TypeRef)

namespace AliasTable

/-- What a name is bound to, by its last binding. -/
def target? : AliasTable → String → Option TypeRef
  | [], _ => none
  | (name, target) :: rest, n =>
    match target? rest n with
    | some t => some t
    | none => if name = n then some target else none

theorem isSome_target? (table : AliasTable) (n : String) :
    (table.target? n).isSome = true ↔ n ∈ table.map (·.1) := by
  induction table with
  | nil => simp [target?]
  | cons b rest ih =>
    simp only [target?, List.map_cons, List.mem_cons]
    cases h : target? rest n with
    | some t => simp [← ih, h]
    | none => grind

/-- The bound names, each once, in the order of code points. -/
def names (table : AliasTable) : List String :=
  ((table.map (·.1)).eraseDups).mergeSort (· ≤ ·)

end AliasTable

namespace TypeRef

/-- The type with the nullable mark added if the flag is set. -/
def orNullable (t : TypeRef) (nullable : Bool) : TypeRef :=
  { t with nullable := t.nullable || nullable }

mutual

/-- Replaces each reference without arguments by what `f` has for its name; a nullable mark of the
reference goes over to that type. -/
def substitute? (f : String → Option TypeRef) : TypeRef → Option TypeRef
  | ⟨name, [], nullable⟩ => (f name).map (·.orNullable nullable)
  | ⟨name, t :: ts, nullable⟩ => do
    let arg ← substitute? f t
    let args ← substituteAll? f ts
    return ⟨name, arg :: args, nullable⟩
termination_by structural t => t

def substituteAll? (f : String → Option TypeRef) : List TypeRef → Option (List TypeRef)
  | [] => some []
  | t :: ts => do
    let arg ← substitute? f t
    let args ← substituteAll? f ts
    return arg :: args
termination_by structural ts => ts

end

mutual

/-- The names of the references without arguments, in the order in which they are written. -/
def leaves : TypeRef → List String
  | ⟨name, [], _⟩ => [name]
  | ⟨_, t :: ts, _⟩ => leaves t ++ leavesOfAll ts
termination_by structural t => t

def leavesOfAll : List TypeRef → List String
  | [] => []
  | t :: ts => leaves t ++ leavesOfAll ts
termination_by structural ts => ts

end

mutual

def withoutNullable : TypeRef → TypeRef
  | ⟨name, args, _⟩ => ⟨name, allWithoutNullable args, false⟩
termination_by structural t => t

def allWithoutNullable : List TypeRef → List TypeRef
  | [] => []
  | t :: ts => withoutNullable t :: allWithoutNullable ts
termination_by structural ts => ts

end

end TypeRef

end MatchCover
