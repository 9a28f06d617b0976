import Interchain.Config.Basic
import Interchain.Files

/-!
# Where the configuration is found

A configuration is a file.  Its path can be given outright or by a variable;
otherwise it is looked for in the user's configuration directory and then in the
working directory.
-/

namespace Interchain

/-- Why there is no configuration. -/
inductive LoadError where
  | notFound
  | unreadable (path : String) (fault : FileFault)
  | invalid (path : String) (fault : Fault)
deriving DecidableEq, Repr

def LoadError.message : LoadError → String
  | .notFound =>
    "Could not find config.json (pass --config, set INDEX_CONFIG or create ./config.json)"
  | .unreadable path fault => "Failed to read " ++ path ++ ": " ++ fault.message
  | .invalid path fault => "Invalid config " ++ path ++ ": " ++ fault.message

namespace Config

/-- The paths that are tried where none is given. -/
def candidates (env : Environment) : List String :=
  ((env "XDG_CONFIG_HOME").map fun home =>
    Files.join (Files.join home "index") "config.json").toList ++ ["config.json"]

/-- The path of the configuration. -/
def path (env : Environment) (files : Files) : Except LoadError String :=
  match env "INDEX_CONFIG" with
  | some path => .ok path
  | none =>
    match (candidates env).find? files.contains with
    | some path => .ok path
    | none => .error .notFound

/-- Load the configuration from the given path, or from where it is found. -/
def load (env : Environment) (files : Files) (explicit : Option String) :
    Except LoadError Config := do
  let path ←
    match explicit with
    | some path => pure path
    | none => path env files
  match files.readText path with
  | .error fault => .error (.unreadable path fault)
  | .ok text => (ofText env text).mapError (.invalid path)

end Config

end Interchain
