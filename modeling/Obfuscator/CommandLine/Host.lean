import Obfuscator.Failure
import Obfuscator.Text.Utf8
/-!
# What a run needs from its surroundings

A run of the command line reads and writes files, reads standard input and the environment,
draws a seed when it is given none, and may call the rewriting service. These needs are the
fields of a host over a monad. A run is written once over any host: the program's entry point
gives the operating system's, and an in-memory workspace gives one whose runs are functions of
a value.

A run ends with an exit: its status and the texts it wrote to standard output and standard
error.
-/

namespace Obfuscator
namespace CommandLine

/-- The surroundings of a run, in a monad `m`. -/
structure Host (m : Type → Type) where
  readFile : String → m (Except FileError (List UInt8))
  writeFile : String → String → m (Except FileError Unit)
  readInput : m (List UInt8)
  environment : String → m (Option String)
  freshSeed : m UInt64
  service : RewritingService

/-- How a run ended: its status and what it wrote to its two output streams. -/
structure Exit where
  status : Nat
  stdout : String := ""
  stderr : String := ""
  deriving DecidableEq, Repr

end CommandLine

/-!
## Workspaces

A workspace is a directory of files held in memory, together with the standard input, the
environment and the seed of a run. It is the surroundings of the command line as a value, so a
run over it is a function of the workspace.

Paths are read as the file system reads them. A path's parts are what lies between slashes,
with empty parts and `.` skipped; a leading slash is read the same way, as the workspace is the
whole tree. A directory is any path that files lie under, and the workspace itself is one. On
the way to a file, each part must be a directory: a missing one means nothing is found, and a
file there means it is not a directory. A path that ends in a slash or in `.` names a directory.

Reading a directory fails, and so does writing one. Writing creates or replaces a file in a
directory that exists.
-/

/-- Files held in memory by path, with the standard input, environment and seed of a run. -/
structure Workspace where
  files : List (String × List UInt8) := []
  input : List UInt8 := []
  environment : List (String × String) := []
  seed : UInt64 := 0

namespace Workspace

def parts (path : String) : List String :=
  (path.splitOn "/").filter fun p => p != "" && p != "."

def keyOf (parts : List String) : String := String.intercalate "/" parts

def namesDirectory (path : String) : Bool :=
  path.endsWith "/" || path == "." || path.endsWith "/."

/-- What a path leads to. -/
inductive Entry where
  | file (bytes : List UInt8)
  | directory
  | missing

def entry (w : Workspace) (parts : List String) : Entry :=
  if parts.isEmpty then .directory
  else
    let key := keyOf parts
    match w.files.find? (·.1 == key) with
    | some (_, bytes) => .file bytes
    | none => if w.files.any fun f => (key ++ "/").isPrefixOf f.1 then .directory else .missing

def wayFault (w : Workspace) (parts : List String) : Option FileError :=
  (List.range (parts.length - 1)).findSome? fun k =>
    match w.entry (parts.take (k + 1)) with
    | .directory => none
    | .file _ => some .notDirectory
    | .missing => some .notFound

/-- The bytes of the file at a path. -/
def read (w : Workspace) (path : String) : Except FileError (List UInt8) :=
  let ps := parts path
  if path.isEmpty then .error .notFound
  else
    match w.wayFault ps with
    | some e => .error e
    | none =>
      match w.entry ps with
      | .file bytes => if namesDirectory path then .error .notDirectory else .ok bytes
      | .directory => .error .isDirectory
      | .missing => .error .notFound

def setFile (w : Workspace) (parts : List String) (bytes : List UInt8) : Workspace :=
  let key := keyOf parts
  if w.files.any (·.1 == key) then
    { w with files := w.files.map fun f => if f.1 == key then (key, bytes) else f }
  else { w with files := w.files ++ [(key, bytes)] }

/-- Writes bytes to the file at a path. -/
def write (w : Workspace) (path : String) (bytes : List UInt8) : Except FileError Workspace :=
  let ps := parts path
  if path.isEmpty then .error .notFound
  else
    match w.wayFault ps with
    | some e => .error e
    | none =>
      match w.entry ps with
      | .directory => .error .isDirectory
      | .file _ => if namesDirectory path then .error .notDirectory else .ok (w.setFile ps bytes)
      | .missing => if namesDirectory path then .error .isDirectory else .ok (w.setFile ps bytes)

def ofFiles (files : List (String × List UInt8)) : Workspace :=
  files.foldl (fun w (path, bytes) => w.setFile (parts path) bytes) {}

def addedSince (w earlier : Workspace) : List (String × List UInt8) :=
  (w.files.filter fun f => !earlier.files.any (·.1 == f.1)).mergeSort fun a b => decide (a.1 ≤ b.1)

/-- The workspace as the surroundings of a run, with a rewriting service. -/
def host (service : RewritingService) : CommandLine.Host (StateM Workspace) where
  readFile path := do return (← get).read path
  writeFile path text := do
    match (← get).write path (Text.encodeUtf8 text.toList) with
    | .ok w => set w; return .ok ()
    | .error e => return .error e
  readInput := do return (← get).input
  environment name := do return ((← get).environment.find? (·.1 == name)).map Prod.snd
  freshSeed := do return (← get).seed
  service := service

end Workspace
end Obfuscator
