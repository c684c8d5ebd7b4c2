import MatchCover.Decimal.Layout
import MatchCover.Text.Quoted

/-!
# Literals

The constants of literal patterns and their text in messages.
-/

namespace MatchCover

inductive Literal where
  | bool (value : Bool)
  | int (value : Int)
  | float (value : Binary64)
  | string (value : String)
  | null
  deriving DecidableEq, Repr

namespace Literal

/-- In messages a number is written with an exponent from `1e16` on and below `1e-4`. -/
def layout : Layout where
  leastPlace := -3
  exponentPlace := 17
  plusSign := false
  tie := .up

def display : Literal → String
  | bool true => "true"
  | bool false => "false"
  | int value => toString value
  | float value => String.ofList (layout.write value)
  | string value => String.ofList (Text.quoted value.toList)
  | null => "null"

end Literal

end MatchCover
