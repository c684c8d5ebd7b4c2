/-!
# Summary of missing variants

Names in a message: up to three of them, then the number of the others.
-/

namespace MatchCover.Coverage

def shownNames : Nat := 3

def quotedName (name : String) : String := "`" ++ name ++ "`"

def summary (names : List String) : String :=
  let shown := ", ".intercalate ((names.take shownNames).map quotedName)
  if shownNames < names.length then
    shown ++ " and " ++ toString (names.length - shownNames) ++ " more"
  else shown

end MatchCover.Coverage
