import SourceLens.Json.Writer
import SourceLens.Settings.Arguments
import SourceLens.Settings.Document
import SourceLens.Settings.Environment

/-!
# The command line

Works out the settings of a service from the settings file, the environment and the command line, in
this order, and prints them with the address to listen on.
-/

namespace SourceLens.Main

/-- How the program is called. -/
def usage : String :=
  "Code intelligence over HTTP for browser editors.\n\n" ++
  "Usage: codeassist [OPTIONS]\n\nOptions:\n" ++
  "  -c, --config <CONFIG>                  YAML config file\n" ++
  "      --host <HOST>\n" ++
  "  -p, --port <PORT>\n" ++
  "      --cache-capacity <CACHE_CAPACITY>  Maximum cached analysis contexts (0 = unbounded)\n" ++
  "      --reference-path <PATH>            Directory searched for logical reference names\n" ++
  "      --no-prelude                       Do not load the bundled std prelude\n" ++
  "      --eager-descriptions               Describe completion items up front\n" ++
  "      --output-kind <OUTPUT_KIND>        library or executable\n" ++
  "  -h, --help                             Print help"

/-- The message for a command line that is refused. -/
def argumentMessage : ArgumentFault → String
  | .unknown => "error: unexpected argument"
  | .missingValue => "error: a value is required"
  | .invalidValue => "error: invalid value"
  | .repeated => "error: an argument cannot be used multiple times"
  | .surplusValue => "error: unexpected value"
  | .help => usage

/-- The message for settings that could not be loaded. -/
def loadMessage : Settings.LoadFault → String
  | .unreadable => "failed to read the settings"
  | .malformed => "invalid config YAML"

/-- The content of a file. -/
def readContent (path : String) : IO (Option FileContent) := do
  try
    let bytes ← IO.FS.readBinFile path
    match String.fromUTF8? bytes with
    | some text => return some (.text text)
    | none => return some .binary
  catch _ => return none

/-- The settings that the file and the environment give. -/
def loadSettings (file : Option String) : IO (Except String Settings) := do
  let path := file.getD Settings.defaultFile
  let content ← readContent path
  let values ← Settings.overrides.mapM fun (name, _) => return (name, ← IO.getEnv name)
  match Settings.load (fun other => if other = path then content else none) file with
  | .error fault => return .error (loadMessage fault)
  | .ok settings =>
      match settings.readEnvironment fun name => (values.lookup name).join with
      | (settings, none) => return .ok settings
      | (_, some fault) => return .error fault.message

end SourceLens.Main

open SourceLens in
/-- Prints the settings in force. -/
def main (arguments : List String) : IO UInt32 := do
  match Arguments.ofList arguments with
  | .error .help =>
      IO.println Main.usage
      return 0
  | .error fault =>
      IO.eprintln (Main.argumentMessage fault)
      return 2
  | .ok arguments =>
      match ← Main.loadSettings arguments.file with
      | .error message =>
          IO.eprintln message
          return 1
      | .ok settings =>
          let settings := arguments.apply settings
          IO.println settings.bindAddress
          IO.println settings.toJson.render
          return 0
