import MatchCover.Json.Number

/-!
# Records in JSON

A record is an object of named fields or an array of the same fields in order, which may leave off
fields at its end. Of the known fields none may be given twice; others are passed over.
-/

namespace MatchCover.Json

/-- The members of an object, if all keys can be read. -/
def keyed? (members : List (List Piece × Json)) : Option (List (String × Json)) :=
  members.mapM fun (key, value) => (Piece.string? key).map (·, value)

/-- The value of a field, `some none` if it is absent, `none` if it is given twice. -/
def field? (fields : List (String × Json)) (name : String) : Option (Option Json) :=
  match fields.filter (·.1 == name) with
  | [] => some none
  | [(_, value)] => some (some value)
  | _ => none

def objectFields? (names : List String) (members : List (List Piece × Json)) :
    Option (List (Option Json)) := do
  let fields ← keyed? members
  names.mapM (field? fields)

def arrayFields? (names : List String) (items : List Json) : Option (List (Option Json)) :=
  if items.length ≤ names.length then
    some (items.map some ++ List.replicate (names.length - items.length) none)
  else none

/-- The values of the named fields of a record. -/
def record? (names : List String) : Json → Option (List (Option Json))
  | object members => objectFields? names members
  | array items => arrayFields? names items
  | _ => none

variable {α : Type}

/-- Reads a field that has to be there. -/
def required? (read : Json → Option α) (field : Option Json) : Option α := field.bind read

/-- Reads a field that may be absent or null. -/
def optional? (read : Json → Option α) : Option Json → Option (Option α)
  | none => some none
  | some null => some none
  | some j => (read j).map some

def list? (read : Json → Option α) (j : Json) : Option (List α) := do
  let items ← j.items?
  items.mapM read

/-- Reads a field with a list, an empty one if it is absent. -/
def listOrEmpty? (read : Json → Option α) (field : Option Json) : Option (List α) :=
  field.elim (some []) (list? read)

/-- Whether a value can be read and nests at most `room` arrays and objects. -/
def sound (room : Nat) (j : Json) : Bool := j.readable && decide (j.depth ≤ room)

end MatchCover.Json
