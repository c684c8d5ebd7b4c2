import MatchCover.Alias.Cycle
import MatchCover.Error

/-!
# Alias environments

An environment decides which spellings mean the same type: those with the same canonical form, in
which aliases are resolved and, if nullability does not count, no type is marked nullable.
-/

namespace MatchCover

structure Environment where
  aliases : AliasTable := []
  ignoreNullability : Bool := true

namespace Environment

/-- The environment of a list of bindings, unless they are circular. -/
def ofAliases (aliases : AliasTable) (ignoreNullability : Bool) : Except CheckError Environment :=
  match aliases.cycle? with
  | some path => throw (.aliasCycle path)
  | none => return { aliases, ignoreNullability }

/-- Replaces aliases by their targets, and aliases in those in turn. Gives nothing where they nest
deeper than the bound allows. -/
def resolve? (aliases : AliasTable) : (depth : Nat) → TypeRef → Option TypeRef
  | 0 => fun _ => none
  | depth + 1 => TypeRef.substitute? fun name =>
    match aliases.target? name with
    | some target => resolve? aliases depth target
    | none => some (.named name)

/-- The canonical form of a type. Aliases that are not circular nest no deeper than their number, so
that the bound is never reached. -/
def canonical (env : Environment) (t : TypeRef) : TypeRef :=
  let resolved := (resolve? env.aliases (env.aliases.length + 1) t).getD t
  if env.ignoreNullability then resolved.withoutNullable else resolved

end Environment

end MatchCover
