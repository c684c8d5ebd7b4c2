import MatchCover.Analysis
import MatchCover.Command.Arguments
import MatchCover.Command.Files
import MatchCover.Config.Reading
import MatchCover.Diagnostic.Report
import MatchCover.Diagnostic.Writing
import MatchCover.Fix.Edit
import MatchCover.Snapshot.Reading

/-!
# Running commands

What a command writes and how it exits: with 0, with 1 after an error or a diagnostic that is one,
and with 2 if the arguments are no proper use. Reading files is left to a parameter.
-/

namespace MatchCover

structure Outcome where
  exitCode : Nat
  output : String
  errors : String
  deriving DecidableEq, Repr

def programName : String := "unionck"

def programVersion : String := "0.1.0"

/-- The configuration that is used if there is one beside the snapshot. -/
def configFileName : String := "unionck.toml"

/-- An error with the name of the file that it is about and, if it is known, the source. -/
structure Failure where
  error : CheckError
  filename : String
  source : Option String := none

/-- A snapshot with its configuration and, if there is one, its source. -/
structure Input where
  document : Document
  config : Config
  filename : String
  source : Option String

namespace Input

def failure (i : Input) (error : CheckError) : Failure := ⟨error, i.filename, i.source⟩

/-- What `check` and `fix` find out, with the lines that tell its progress. -/
structure Progress where
  log : List String
  result : Except CheckError (List Diagnostic)

def documentLine (d : Document) (a : Analyzer) : String :=
  programName ++ ": " ++ toString d.expressions.length ++ " match(es), " ++
    toString a.registry.declared.length ++ " declared union(s)"

def matchLine (number : Nat) (m : MatchExpr) (count : Nat) : String :=
  programName ++ ": match #" ++ toString number ++ " on `" ++ m.scrutinee.display ++ "`: " ++
    toString count ++ " diagnostic(s)"

/-- Diagnoses the matches from a number on, up to the first error. -/
def diagnoseFrom (a : Analyzer) (number : Nat) : List MatchExpr → Progress
  | [] => ⟨[], .ok []⟩
  | m :: rest =>
    match a.diagnose m with
    | .error e => ⟨[], .error e⟩
    | .ok found =>
      let p := diagnoseFrom a (number + 1) rest
      ⟨matchLine number m found.length :: p.log, p.result.map (found ++ ·)⟩

def analyze (i : Input) : Progress :=
  match Analyzer.ofDocument i.config i.document with
  | .error e => ⟨[], .error e⟩
  | .ok a =>
    let p := diagnoseFrom a 0 i.document.expressions
    ⟨documentLine i.document a :: p.log, p.result⟩

/-- Diagnostics as `check` writes them: as reports if there is a source. -/
def write (i : Input) (format : Format) (ds : List Diagnostic) : String :=
  match format, i.source with
  | .json, _ => Diagnostic.jsonText ds ++ "\n"
  | .text, some source => String.join (ds.map (·.report i.filename source))
  | .text, none => Diagnostic.plainText ds i.filename none

def passes (ds : List Diagnostic) : Bool := !ds.any Diagnostic.isError

/-- The source with the fixes of all diagnostics applied. -/
def fixed (i : Input) : Except Failure String := do
  match i.source with
  | none =>
    throw ⟨.inaccessible "no source file: pass --source or set `source` in the snapshot",
      i.filename, none⟩
  | some source =>
    let ds ← i.analyze.result.mapError i.failure
    let edits := (ds.filterMap (·.fix)).filterMap (Edit.ofFix? · source)
    (Edit.applyAll source edits).mapError i.failure

end Input

namespace Failure

def outcome (f : Failure) : Outcome := ⟨1, "", f.error.report f.filename f.source⟩

end Failure

variable {m : Type → Type} [Monad m]

def Files.load (files : Files m) (snapshot path : String) : ExceptT Failure m String := do
  match ← files.read path with
  | .ok text => return text
  | .error fault => throw ⟨.inaccessible fault.message, snapshot, none⟩

def Document.load (files : Files m) (snapshot : String) : ExceptT Failure m Document := do
  let text ← files.load snapshot snapshot
  match Document.ofJsonText? text with
  | some d => return d
  | none => throw ⟨.unreadableSnapshot, snapshot, none⟩

/-- Reads the configuration for a snapshot: the given one, else the one beside it. -/
def Config.load (files : Files m) (snapshot : String) (config : Option String) :
    ExceptT Failure m Config := do
  let beside := Path.join (Path.parent snapshot) configFileName
  let path ← match config with
    | some path => pure (some path)
    | none => do pure (if ← files.isFile beside then some beside else none)
  match path with
  | none => return {}
  | some path =>
    let text ← files.load snapshot path
    match Config.ofTomlText? text with
    | some c => return c
    | none => throw ⟨.unreadableConfig, snapshot, none⟩

def Input.load (files : Files m) (snapshot : String) (config source : Option String) :
    ExceptT Failure m Input := do
  let document ← Document.load files snapshot
  let config ← Config.load files snapshot config
  let path := source.or (document.source.map (Path.join (Path.parent snapshot)))
  let text ← path.mapM (files.load snapshot)
  let filename := path.getD snapshot
  let sourceLength := text.map fun t => Text.byteLength t.toList
  match document.checkSpans sourceLength with
  | .ok _ => return { document, config, filename, source := text }
  | .error e => throw ⟨e, filename, none⟩

def Input.check (i : Input) (format : Format) (verbose : Bool) : Outcome :=
  let p := i.analyze
  let log := if verbose then String.join (p.log.map (· ++ "\n")) else ""
  match p.result with
  | .ok ds => ⟨if Input.passes ds then 0 else 1, i.write format ds, log⟩
  | .error e => ⟨1, "", log ++ (i.failure e).outcome.errors⟩

def Input.fix (i : Input) : Outcome :=
  match i.fixed with
  | .ok text => ⟨0, text, ""⟩
  | .error f => f.outcome

def Document.dump (d : Document) : Outcome := ⟨0, Json.pretty d.toJson ++ "\n", ""⟩

def usage : String :=
  "usage: " ++ programName ++ " check SNAPSHOT [--config FILE] [--source FILE]" ++
    " [--format text|json] [-v]\n" ++
  "       " ++ programName ++ " fix SNAPSHOT [--config FILE] [--source FILE]\n" ++
  "       " ++ programName ++ " dump SNAPSHOT\n"

namespace Command

def run (files : Files m) : Command → ExceptT Failure m Outcome
  | version => return ⟨0, programName ++ " " ++ programVersion ++ "\n", ""⟩
  | check snapshot config source format verbose =>
    return (← Input.load files snapshot config source).check format verbose
  | fix snapshot config source => return (← Input.load files snapshot config source).fix
  | dump snapshot => return (← Document.load files snapshot).dump

def execute (files : Files m) (arguments : List String) : m Outcome := do
  match ofArguments? arguments with
  | none => return ⟨2, "", usage⟩
  | some command =>
    match ← (command.run files).run with
    | .ok outcome => return outcome
    | .error f => return f.outcome

end Command

end MatchCover
