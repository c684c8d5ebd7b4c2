import MatchCover.Alias.Table

/-!
# Alias cycles

An alias refers to the aliases that stand without arguments in its target. `cycle?` searches the
references depth first, from the bound names in order, and gives the first circle it closes.
-/

namespace MatchCover.AliasTable

/-- The aliases that the target of an alias refers to, in the order in which they are written. -/
def references (table : AliasTable) (name : String) : List String :=
  ((table.target? name).elim [] TypeRef.leaves).filter fun n => (table.target? n).isSome

/-- The bound names that are not on the path. -/
def unvisited (table : AliasTable) (path : List String) : List String :=
  (table.map (·.1)).filter (· ∉ path)

theorem length_unvisited_lt {table : AliasTable} {path : List String} {name : String}
    (hp : name ∉ path) (ht : (table.target? name).isSome = true) :
    (table.unvisited (path ++ [name])).length < (table.unvisited path).length := by
  have hstep : table.unvisited (path ++ [name]) = (table.unvisited path).filter (· ≠ name) := by
    rw [unvisited, unvisited, List.filter_filter]
    refine List.filter_congr fun n _ => ?_
    simp [and_comm]
  have hname : name ∈ table.map (·.1) := (isSome_target? table name).mp ht
  rw [hstep, List.length_filter_lt_length_iff_exists]
  exact ⟨name, List.mem_filter.mpr ⟨hname, by simpa using hp⟩, by simp⟩

/-- Visits a name that was reached along a path of aliases. Gives the names that are known to lead
to no circle, or else a circle that was found. -/
def visit (table : AliasTable) (path clear : List String) (name : String) :
    Except (List String) (List String) :=
  if name ∈ clear then .ok clear
  else if name ∈ path then .error (path.dropWhile (· != name) ++ [name])
  else if (table.target? name).isSome then do
    let clear ← (table.references name).foldlM
      (fun clear next => visit table (path ++ [name]) clear next) clear
    return name :: clear
  else .ok clear
termination_by (table.unvisited path).length
decreasing_by exact length_unvisited_lt ‹_› ‹_›

/-- The first circle of aliases, as a path that ends where it starts. -/
def cycle? (table : AliasTable) : Option (List String) :=
  match table.names.foldlM (fun clear name => visit table [] clear name) [] with
  | .ok _ => none
  | .error path => some path

end MatchCover.AliasTable
