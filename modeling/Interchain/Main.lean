import Interchain.Cli.Run

/-!
# The tool

The outermost layer: it takes the command line, the environment and the files
that the command looks at, and prints what the command comes to.  No network is
built in, so that no connection can be made to any gateway.
-/

namespace Interchain.Cli

/-- The environment of the process, as its variables in the order in which the
system holds them. -/
def readEnvironment : IO Environment := do
  let bytes ← try IO.FS.readBinFile "/proc/self/environ" catch _ => pure ByteArray.empty
  let entries := ((Utf8.text bytes.toList).splitOn "\x00").map fun v =>
    let cs := v.toList
    (String.ofList (cs.takeWhile (· != '=')), String.ofList ((cs.dropWhile (· != '=')).drop 1))
  return Environment.ofList entries

/-- What reading a file comes to. -/
def readEntry (path : String) : IO (String × Except FileFault (List UInt8)) := do
  let result ←
    try
      let bytes ← IO.FS.readBinFile path
      pure (.ok bytes.toList)
    catch
      | .noFileOrDirectory _ _ _ => pure (.error .missing)
      | .inappropriateType _ 20 _ => pure (.error .notDirectory)
      | .inappropriateType _ _ _ => pure (.error .isDirectory)
      | e => pure (.error (.other (toString e)))
  return (path, result)

/-- The files that a command line leads to. -/
def readFiles (env : Environment) (args : List String) : IO Files := do
  match Request.ofArgs env args with
  | .ok request => return .ofPaths (← (request.paths env).mapM readEntry)
  | .error _ => return .empty

end Interchain.Cli

open Interchain in
def main (args : List String) : IO UInt32 := do
  let env ← Cli.readEnvironment
  let files ← Cli.readFiles env args
  let (exit, _) := (Cli.main env files args).run Gateway.unreachable []
  (← IO.getStdout).putStr exit.stdout
  (← IO.getStderr).putStr exit.stderr
  return UInt32.ofNat exit.status
