import MatchCover.Text.Substitute
import MatchCover.TypeRef.Basic

/-!
# Arm templates

The text of an added arm is made from a template with a place for the type and one for the binding.
-/

namespace MatchCover.Template

def typePlace : List Char := ['{', 't', 'y', 'p', 'e', '}']

def bindingPlace : List Char := ['{', 'b', 'i', 'n', 'd', 'i', 'n', 'g', '}']

/-- The place for a pattern of both. -/
def patternPlace : List Char := typePlace ++ ' ' :: bindingPlace

/-- The arm for a type: first the type is put in, then the binding. -/
def renderArm (template : List Char) (t : TypeRef) (binding : List Char) : List Char :=
  Text.substitute bindingPlace binding (Text.substitute typePlace t.chars template)

/-- The arm for all other values. A pattern of type and binding becomes `_` as a whole; a template
without one has `_` for the type and nothing for the binding. -/
def renderDiscard (template : List Char) : List Char :=
  if Text.occursIn patternPlace template then Text.substitute patternPlace ['_'] template
  else Text.substitute bindingPlace [] (Text.substitute typePlace ['_'] template)

end MatchCover.Template
