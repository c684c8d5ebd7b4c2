import MatchCover.Toml.Date

/-!
# TOML values

The tree of a TOML text. A table remembers how it came about, which decides whether later lines may
add to it: `insert?` adds a line of the form `a.b = value` and `placeAt?` the table of a header.
Numbers are told apart from other values but not kept, since no setting has one.
-/

namespace MatchCover

inductive Toml.Origin where
  /-- Written in braces; complete. -/
  | inline
  /-- Opened by a header of its own. -/
  | header
  /-- Passed through by a longer header. -/
  | implied
  /-- Passed through by a dotted key. -/
  | dotted
  deriving DecidableEq, Repr

inductive Toml where
  | string (text : String)
  | bool (value : Bool)
  | number
  | date (date : Toml.Date)
  /-- An array in brackets. -/
  | array (items : List Toml)
  | table (origin : Toml.Origin) (entries : List (String × Toml))
  /-- An array of tables, each opened by a header in double brackets. -/
  | tables (items : List Toml)
  deriving Repr

namespace Toml

/-- The entries of a table, each key once. -/
abbrev Entries := List (String × Toml)

/-- Replaces the value of a key, or adds it. -/
def put : Entries → String → Toml → Entries
  | [], key, value => [(key, value)]
  | (k, v) :: entries, key, value =>
    if k = key then (key, value) :: entries else (k, v) :: put entries key value

/-- Changes the entries of the last of some tables. -/
def updateLast? (items : List Toml) (f : Entries → Option Entries) : Option (List Toml) :=
  match items.getLast? with
  | some (table origin entries) => do
    let entries ← f entries
    some (items.dropLast ++ [table origin entries])
  | _ => none

/-- Adds a value under a dotted key. The tables that the key passes through must not have been
opened in any other way than by dotted keys, the last of them at least. -/
def insert? (value : Toml) : List String → Entries → Option Entries
  | [], _ => none
  | [key], entries =>
    match entries.lookup key with
    | none => some (entries ++ [(key, value)])
    | some _ => none
  | key :: next :: path, entries => do
    let value ← match entries.lookup key with
      | none => (insert? value (next :: path) []).map (table .dotted)
      | some (table .dotted sub) => (insert? value (next :: path) sub).map (table .dotted)
      | some (table .implied sub) =>
        if path.isEmpty then none else (insert? value (next :: path) sub).map (table .implied)
      | some (tables items) =>
        if path.isEmpty then none
        else (updateLast? items (insert? value (next :: path))).map tables
      | some _ => none
    some (put entries key value)

/-- Changes the value under the key of a header. The tables on the way are opened if they are
missing; of an array of tables the last one is meant. -/
def placeAt? (place : Option Toml → Option Toml) : List String → Entries → Option Entries
  | [], _ => none
  | [key], entries => (place (entries.lookup key)).map (put entries key)
  | key :: next :: path, entries => do
    let value ← match entries.lookup key with
      | none => (placeAt? place (next :: path) []).map (table .implied)
      | some (table .inline _) => none
      | some (table origin sub) => (placeAt? place (next :: path) sub).map (table origin)
      | some (tables items) => (updateLast? items (placeAt? place (next :: path))).map tables
      | some _ => none
    some (put entries key value)

/-- The entries with lines added, each a dotted key with a value. -/
def insertAll? (pairs : List (List String × Toml)) (entries : Entries) : Option Entries :=
  pairs.foldlM (fun entries (path, value) => insert? value path entries) entries

def ofPairs? (pairs : List (List String × Toml)) : Option Toml :=
  (insertAll? pairs []).map (table .inline)

inductive Header where
  | table (path : List String)
  /-- One more table of an array. -/
  | item (path : List String)
  deriving Repr

/-- Adds a header with the lines below it. A table can be opened only once, but one that a longer
header passed through can still be opened. -/
def addSection? (header : Header) (pairs : List (List String × Toml)) (root : Entries) :
    Option Entries :=
  match header with
  | .table path => placeAt?
      (fun
        | none => (insertAll? pairs []).map (table .header)
        | some (table .implied sub) => (insertAll? pairs sub).map (table .header)
        | some _ => none)
      path root
  | .item path => placeAt?
      (fun
        | none => (insertAll? pairs []).map fun entries => tables [table .header entries]
        | some (tables items) =>
          (insertAll? pairs []).map fun entries => tables (items ++ [table .header entries])
        | some _ => none)
      path root

end Toml

end MatchCover
