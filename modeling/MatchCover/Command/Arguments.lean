/-!
# Arguments of the command line

`check`, `fix` and `dump`, each with the path of a snapshot and options. An option may stand before
or after the path, with its value as the next argument or after an equals sign; each may be given
once. After `--` there are only paths.
-/

namespace MatchCover

inductive Format where
  | text
  | json
  deriving DecidableEq, Repr

structure Options where
  snapshot : Option String := none
  config : Option String := none
  source : Option String := none
  format : Option Format := none
  verbose : Bool := false
  deriving Repr

inductive Command where
  | version
  | check (snapshot : String) (config source : Option String) (format : Format) (verbose : Bool)
  | fix (snapshot : String) (config source : Option String)
  | dump (snapshot : String)
  deriving Repr

namespace Options

/-- Puts a value where there is none yet; it must not be empty. -/
def setOnce? (old : Option String) (value : String) : Option (Option String) :=
  if old.isSome ∨ value.isEmpty then none else some (some value)

def isValued (name : String) : Bool := name ∈ ["config", "source", "format"]

def setValued? (o : Options) (name value : String) : Option Options :=
  if name = "config" then (setOnce? o.config value).map ({ o with config := · })
  else if name = "source" then (setOnce? o.source value).map ({ o with source := · })
  else if o.format.isSome then none
  else if value = "text" then some { o with format := some .text }
  else if value = "json" then some { o with format := some .json }
  else none

def setVerbose? (o : Options) : Option Options :=
  if o.verbose then none else some { o with verbose := true }

def setSnapshot? (o : Options) (path : String) : Option Options :=
  (setOnce? o.snapshot path).map ({ o with snapshot := · })

def splitValue (s : List Char) : String × Option String :=
  let name := s.takeWhile (· != '=')
  match s.dropWhile (· != '=') with
  | [] => (String.ofList name, none)
  | _ :: value => (String.ofList name, some (String.ofList value))

/-- Whether an argument can be the value of an option before it. -/
def isValue (argument : String) : Bool := argument = "-" || !argument.startsWith "-"

/-- Reads arguments, of which those that are options have to be allowed. -/
def read? (allowed : List String) : Options → List String → Option Options
  | o, [] => some o
  | o, "--" :: paths => paths.foldlM setSnapshot? o
  | o, argument :: rest =>
    match argument.toList with
    | '-' :: '-' :: s =>
      let (name, value) := splitValue s
      if name ∉ allowed then none
      else if isValued name then
        match value, rest with
        | some value, rest => do
          let o ← setValued? o name value
          read? allowed o rest
        | none, value :: rest =>
          if isValue value then do
            let o ← setValued? o name value
            read? allowed o rest
          else none
        | none, [] => none
      else if value.isSome then none
      else do
        let o ← setVerbose? o
        read? allowed o rest
    | ['-', 'v'] =>
      if "verbose" ∈ allowed then do
        let o ← setVerbose? o
        read? allowed o rest
      else none
    | '-' :: _ :: _ => none
    | _ => do
      let o ← setSnapshot? o argument
      read? allowed o rest

end Options

namespace Command

/-- Whether an argument asks for the version. The short form may have anything behind it. -/
def isVersion (argument : String) : Bool := argument = "--version" || argument.startsWith "-V"

/-- The command that arguments ask for, `none` if they are no proper use. -/
def ofArguments? : List String → Option Command
  | "check" :: arguments => do
    let o ← Options.read? ["config", "source", "format", "verbose"] {} arguments
    let snapshot ← o.snapshot
    some (.check snapshot o.config o.source (o.format.getD .text) o.verbose)
  | "fix" :: arguments => do
    let o ← Options.read? ["config", "source"] {} arguments
    let snapshot ← o.snapshot
    some (.fix snapshot o.config o.source)
  | "dump" :: arguments => do
    let o ← Options.read? [] {} arguments
    let snapshot ← o.snapshot
    some (.dump snapshot)
  | argument :: _ => if isVersion argument then some .version else none
  | [] => none

end Command

end MatchCover
