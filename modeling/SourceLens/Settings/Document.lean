import SourceLens.Settings
import SourceLens.Workspace
import SourceLens.Yaml.Reader

/-!
# Settings in a file

A settings file is a YAML mapping from the names of settings to their values.  Names that are no
setting are skipped, and a setting that is given twice is refused.  A file that says nothing leaves
every setting as it is by default.
-/

namespace SourceLens.Settings

/-- The names of the settings. -/
def names : List String :=
  ["host", "port", "cache_capacity", "max_reference_failures", "reference_paths", "bundled_prelude",
    "default_output_kind", "eager_descriptions", "indent_width", "log_filter"]

/-- The settings with the one of a name changed to a value. -/
def assign? (settings : Settings) (name : String) (value : Yaml) : Option Settings :=
  match name with
  | "host" => value.text?.map fun host => { settings with host }
  | "port" => (value.natural? maxPort).map fun port => { settings with port }
  | "cache_capacity" =>
      (value.natural? maxCount).map fun cacheCapacity => { settings with cacheCapacity }
  | "max_reference_failures" =>
      (value.natural? maxCount).map fun maxReferenceFailures =>
        { settings with maxReferenceFailures }
  | "reference_paths" => value.texts?.map fun referencePaths => { settings with referencePaths }
  | "bundled_prelude" => value.truth?.map fun bundledPrelude => { settings with bundledPrelude }
  | "default_output_kind" =>
      (value.text?.bind OutputKind.ofName?).map fun defaultOutput => { settings with defaultOutput }
  | "eager_descriptions" =>
      value.truth?.map fun eagerDescriptions => { settings with eagerDescriptions }
  | "indent_width" => (value.natural? maxCount).map fun indentWidth => { settings with indentWidth }
  | "log_filter" => value.text?.map fun logFilter => { settings with logFilter }
  | _ => some settings

/-- The settings that a YAML value gives. -/
def ofYaml? (value : Yaml) : Option Settings := do
  let entries ← value.entries?
  let named ← entries.mapM fun (key, value) => key.text?.map fun name => (name, value)
  if ((named.map Prod.fst).filter names.contains).Nodup then
    named.foldlM (fun settings (name, value) => settings.assign? name value) {}
  else none

/-- The settings that a text gives. -/
def ofText? (text : String) : Option Settings :=
  if text.toList.all Text.isBlank then some {} else (Yaml.ofText? text).bind ofYaml?

/-- Why no settings could be loaded. -/
inductive LoadFault where
  /-- The file is missing, or holds no text. -/
  | unreadable
  | malformed
  deriving DecidableEq, Repr

/-- The settings that a file gives. -/
def ofContent : Option FileContent → Except LoadFault Settings
  | some (.text text) =>
      match ofText? text with
      | some settings => .ok settings
      | none => .error .malformed
  | _ => .error .unreadable

/-- The file that is read when none is named. -/
def defaultFile : String :=
  "codeassist.yaml"

/-- The settings of the file of a path, or of the default file.  Only the default file may be
missing. -/
def load (read : String → Option FileContent) : Option String → Except LoadFault Settings
  | some path => ofContent (read path)
  | none =>
      match read defaultFile with
      | some content => ofContent (some content)
      | none => .ok {}

end SourceLens.Settings
