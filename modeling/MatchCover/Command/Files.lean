import MatchCover.Command.Path

/-!
# Files

How the command reads files, and files that are all given beforehand.
-/

namespace MatchCover

inductive FileFault where
  | missing
  /-- A directory has the path. -/
  | isDirectory
  /-- The path passes through a file. -/
  | notDirectory
  | nameTooLong
  /-- The path holds a character that no name can have. -/
  | nullCharacter
  /-- The file is no text. -/
  | notText
  | other (message : String)
  deriving DecidableEq, Repr

def FileFault.message : FileFault → String
  | missing => "No such file or directory (os error 2)"
  | isDirectory => "Is a directory (os error 21)"
  | notDirectory => "Not a directory (os error 20)"
  | nameTooLong => "File name too long (os error 36)"
  | nullCharacter => "file name contained an unexpected NUL byte"
  | notText => "stream did not contain valid UTF-8"
  | other message => message

/-- A way to read text files. -/
structure Files (m : Type → Type) where
  read : String → m (Except FileFault String)
  /-- Whether a path is that of a file. -/
  isFile : String → m Bool

namespace Files

/-- Files with the segments of their paths, none of which is `.` or `..`, the newest first. An empty
last segment makes an empty directory. -/
abbrev Listing := List (List String × String)

/-- Puts a file where a path leads from a directory. The directories that the path turns back from
are made too, so that the path leads to the file. -/
def put (text : String) (listing : Listing) : List String → List String → Listing
  | directory, [] => (directory, text) :: listing
  | directory, [""] => (directory ++ [""], text) :: listing
  | directory, name :: names =>
    if name = "" ∨ name = "." then put text listing directory names
    else if name = ".." then
      (directory ++ [""], "") :: put text listing directory.dropLast names
    else put text listing (directory ++ [name]) names

def listing (files : List (String × String)) : Listing :=
  files.foldl (fun made (path, text) => put text made [] (Path.segments path)) []

/-- What lies outside of the given files: the null device, which is empty, and the directories that
a system has at its root. -/
def outside : Listing :=
  listing <| ["dev/null", "bin/", "etc/", "home/", "lib/", "mnt/", "opt/", "proc/", "root/", "run/",
    "sbin/", "sys/", "tmp/", "usr/", "var/"].map (·, "")

inductive Node where
  | file (text : String)
  /-- A directory, by a listing and the segments of its path in there. -/
  | directory (listing : Listing) (path : List String)

def root : Node := .directory outside []

/-- The greatest length of a name in bytes. -/
def nameLimit : Nat := 255

/-- The greatest length of a path in bytes. -/
def pathLimit : Nat := 4095

def entry (listing : Listing) (directory : List String) (name : String) : Except FileFault Node :=
  let path := directory ++ [name]
  if nameLimit < name.utf8ByteSize then .error .nameTooLong
  else match listing.lookup path with
    | some text => .ok (.file text)
    | none =>
      if listing.any fun (file, _) => path.isPrefixOf file then .ok (.directory listing path)
      else .error .missing

/-- The directory above a directory: the root above the start of a listing. -/
def above (listing : Listing) (path : List String) : Node :=
  if path.isEmpty then root else .directory listing path.dropLast

def follow : Node → List String → Except FileFault Node
  | node, [] => .ok node
  | .file _, _ :: _ => .error .notDirectory
  | .directory listing path, name :: names =>
    if name = "" ∨ name = "." then follow (.directory listing path) names
    else if name = ".." then follow (above listing path) names
    else do
      let node ← entry listing path name
      follow node names

/-- What a path leads to, from the start of a listing or, if it is absolute, from the root. -/
def find (listing : Listing) (path : String) : Except FileFault Node :=
  if path.contains '\x00' then .error .nullCharacter
  else if path.isEmpty then .error .missing
  else if pathLimit < path.utf8ByteSize then .error .nameTooLong
  else follow (if path.startsWith "/" then root else .directory listing []) (Path.segments path)

/-- Files given by their relative paths and texts. Of two with one place the later one counts. -/
def ofList (files : List (String × String)) : Files Id :=
  let listing := listing files
  { read := fun path =>
      match find listing path with
      | .ok (.file text) => .ok text
      | .ok (.directory ..) => .error .isDirectory
      | .error fault => .error fault
    isFile := fun path =>
      match find listing path with
      | .ok (.file _) => true
      | _ => false }

end Files

end MatchCover
