import MatchCover.Command.Run

/-!
# The program

Runs the command on the files of the system.
-/

namespace MatchCover

def FileFault.ofError : IO.Error → FileFault
  | .noFileOrDirectory .. => .missing
  | .inappropriateType _ code _ => if code = 20 then .notDirectory else .isDirectory
  | .invalidArgument _ 36 _ => .nameTooLong
  | .noSuchThing .. => .missing
  | .userError _ => .notText
  | e => .other (toString e)

def readSystemFile (path : String) : IO (Except FileFault String) := do
  if path.contains '\x00' then return .error .nullCharacter
  try return .ok (← IO.FS.readFile path)
  catch e => return .error (.ofError e)

/-- The files of the system. One that is there but cannot be read as text is a file all the same. -/
def Files.system : Files IO where
  read := readSystemFile
  isFile path := return (← readSystemFile path) matches .ok _ | .error .notText | .error (.other _)

end MatchCover

def main (arguments : List String) : IO UInt32 := do
  let outcome ← MatchCover.Command.execute MatchCover.Files.system arguments
  (← IO.getStderr).putStr outcome.errors
  (← IO.getStdout).putStr outcome.output
  return outcome.exitCode.toUInt32
