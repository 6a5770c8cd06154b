import Obfuscator.CommandLine.Run
/-!
# The program's entry point

The command line runs over the operating system: files are read and written on disk, standard
input is read whole, variables come from the environment, and a seed that is not given is drawn
from the system's random source. No network client is built in, so the rewriting service cannot
be reached and delegated requests fail in transport.
-/

open Obfuscator CommandLine

def fileFault : IO.Error → FileError
  | .noFileOrDirectory .. => .notFound
  | .inappropriateType _ 21 _ => .isDirectory
  | .inappropriateType _ 20 _ => .notDirectory
  | e => .other (toString e)

partial def readToEnd (s : IO.FS.Stream) (acc : ByteArray) : IO ByteArray := do
  let chunk ← s.read 65536
  if chunk.isEmpty then return acc else readToEnd s (acc ++ chunk)

/-- The operating system as the surroundings of a run. -/
def systemHost : Host IO where
  readFile path := do
    try return .ok (← IO.FS.readBinFile path).toList
    catch e => return .error (fileFault e)
  writeFile path text := do
    try
      IO.FS.writeFile path text
      return .ok ()
    catch e => return .error (fileFault e)
  readInput := do return (← readToEnd (← IO.getStdin) .empty).toList
  environment name := IO.getEnv name
  freshSeed := do
    let bytes ← IO.getRandomBytes 8
    return bytes.foldl (fun acc b => acc * 256 + b.toUInt64) 0
  service := RewritingService.unreachable

/-- Runs the program and ends with its status. -/
def main (args : List String) : IO UInt32 := do
  match ← run systemHost args with
  | some exit =>
    IO.print exit.stdout
    IO.eprint exit.stderr
    return exit.status.toUInt32
  | none =>
    IO.eprintln "the pipeline did not finish"
    return 101
