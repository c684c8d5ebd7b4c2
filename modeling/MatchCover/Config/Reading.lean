import MatchCover.Config.Basic
import MatchCover.Toml.Parser
import MatchCover.TypeRef.Notation

/-!
# Reading configurations

The settings that a TOML text describes, in four sections. A section is a table or an array of its
settings in order; what is left off keeps its default, and a setting that does not exist is refused.
-/

namespace MatchCover

namespace Toml

/-- The items of an array of any kind. -/
def items? : Toml → Option (List Toml)
  | array items => some items
  | tables items => some items
  | _ => none

def string? : Toml → Option String
  | string text => some text
  | _ => none

def bool? : Toml → Option Bool
  | bool value => some value
  | _ => none

/-- The one key of a date that is taken for a table. -/
def dateKey : String := "$__toml_private_datetime"

/-- The entries of a table; a date counts as a table that holds its text. -/
def entries? : Toml → Option Entries
  | table _ entries => some entries
  | date d => some [(dateKey, string (String.ofList d.text))]
  | _ => none

/-- The values of the named settings, if there are no others. -/
def settings? (names : List String) : Toml → Option (List (Option Toml))
  | table _ entries =>
    if entries.all fun (key, _) => key ∈ names then some (names.map (entries.lookup ·)) else none
  | array items => some (names.mapIdx fun i _ => items[i]?)
  | tables items => some (names.mapIdx fun i _ => items[i]?)
  | _ => none

/-- The name of a choice: a string, or a table of one entry with nothing in it. -/
def choice? : Toml → Option String
  | string text => some text
  | table _ [(name, table _ [])] => some name
  | table _ [(name, array [])] => some name
  | _ => none

/-- Reads a setting that keeps its default if it is left off. -/
def orDefault {α : Type} (default : α) (read : Toml → Option α) : Option Toml → Option α
  | none => some default
  | some t => read t

end Toml

mutual

/-- Reads a type, spelled as a text in the type notation or as a table. -/
def TypeRef.ofToml? : Toml → Option TypeRef
  | .string text => some (TypeRef.ofText text)
  | .table _ entries => do
    let (name, args, nullable) ← TypeRef.tomlFields? entries
    let name ← name
    some ⟨name, args, nullable⟩
  | _ => none
termination_by structural t => t

def TypeRef.ofTomls? : List Toml → Option (List TypeRef)
  | [] => some []
  | t :: items => do
    let type ← TypeRef.ofToml? t
    let types ← TypeRef.ofTomls? items
    some (type :: types)
termination_by structural items => items

def TypeRef.tomlArgs? : Toml → Option (List TypeRef)
  | .array items => TypeRef.ofTomls? items
  | .tables items => TypeRef.ofTomls? items
  | _ => none
termination_by structural t => t

/-- The name, arguments and nullable mark of a type; other entries are passed over. -/
def TypeRef.tomlFields? : List (String × Toml) → Option (Option String × List TypeRef × Bool)
  | [] => some (none, [], false)
  | (key, value) :: entries => do
    let (name, args, nullable) ← TypeRef.tomlFields? entries
    if key = "name" then
      let name ← value.string?
      some (some name, args, nullable)
    else if key = "args" then
      let args ← TypeRef.tomlArgs? value
      some (name, args, nullable)
    else if key = "nullable" then
      let nullable ← value.bool?
      some (name, args, nullable)
    else some (name, args, nullable)
termination_by structural entries => entries

end

def Level.ofToml? (t : Toml) : Option Level := do
  let name ← t.choice?
  if name = "off" then some .off
  else if name = "warning" then some .warning
  else if name = "error" then some .error
  else none

def FixPreference.ofToml? (t : Toml) : Option FixPreference := do
  let name ← t.choice?
  if name = "arms" then some .arms
  else if name = "discard" then some .discard
  else none

def Levels.ofToml? (t : Toml) : Option Levels := do
  match ← t.settings? ["missing_cases", "unreachable_arm"] with
  | [missing, unreachable] =>
    let missingCases ← Toml.orDefault .error Level.ofToml? missing
    let unreachableArm ← Toml.orDefault .warning Level.ofToml? unreachable
    some { missingCases, unreachableArm }
  | _ => none

def FixStyle.ofToml? (t : Toml) : Option FixStyle := do
  let default : FixStyle := {}
  match ← t.settings? ["prefer", "arm_template"] with
  | [prefer, template] =>
    let prefer ← Toml.orDefault default.prefer FixPreference.ofToml? prefer
    let armTemplate ← Toml.orDefault default.armTemplate Toml.string? template
    some { prefer, armTemplate }
  | _ => none

/-- Reads a table of aliases, in the order of their names. -/
def AliasTable.ofToml? (t : Toml) : Option AliasTable := do
  let entries ← t.entries?
  let bindings ← entries.mapM fun (name, t) => (TypeRef.ofToml? t).map (name, ·)
  some (bindings.mergeSort fun a b => a.1 ≤ b.1)

namespace Config

/-- Reads the section on unions: the names of generic constructors. -/
def generic? (t : Toml) : Option (List String) := do
  match ← t.settings? ["generic"] with
  | [generic] =>
    Toml.orDefault ({} : Config).generic (fun t => t.items?.bind (·.mapM Toml.string?)) generic
  | _ => none

/-- Reads the section on types: whether nullability is ignored, and the aliases. -/
def types? (t : Toml) : Option (Bool × AliasTable) := do
  match ← t.settings? ["ignore_nullability", "aliases"] with
  | [ignore, aliases] =>
    let ignore ← Toml.orDefault true Toml.bool? ignore
    let aliases ← Toml.orDefault [] AliasTable.ofToml? aliases
    some (ignore, aliases)
  | _ => none

def ofToml? (t : Toml) : Option Config := do
  let default : Config := {}
  match ← t.settings? ["unions", "types", "diagnostics", "fix"] with
  | [unions, types, diagnostics, fix] =>
    let generic ← Toml.orDefault default.generic generic? unions
    let (ignoreNullability, aliases) ← Toml.orDefault (true, []) types? types
    let levels ← Toml.orDefault default.levels Levels.ofToml? diagnostics
    let fixStyle ← Toml.orDefault default.fixStyle FixStyle.ofToml? fix
    some { generic, ignoreNullability, aliases, levels, fixStyle }
  | _ => none

def ofTomlText? (text : String) : Option Config :=
  (Toml.parse? text).bind fun entries => ofToml? (.table .header entries)

end Config

end MatchCover
