import CanonicalReply.Settings.Placeholder
import CanonicalReply.Settings.Reader
import CanonicalReply.Settings.Validation
import CanonicalReply.Settings.YamlReader

/-!
# Loading settings

A file of settings is read as text, the variables that it names are put in place, the text is read
as settings, and the settings are checked. The first of these steps that fails gives the fault.
-/

namespace CanonicalReply.Settings

open Placeholder (Environment interpolate)

/-- Load settings from what a file holds, if there is such a file, by a reader of text. -/
def loadWith (reader : String → Except LoadFault Settings) (env : Environment) (path : String)
    (content : Option ByteArray) : Except LoadFault Settings :=
  match content with
  | none => .error (.unreadable path .noSuchFile)
  | some bytes =>
    match String.fromUTF8? bytes with
    | none => .error (.unreadable path .notText)
    | some text =>
      match interpolate env text with
      | .error e => .error e
      | .ok text =>
        match reader text with
        | .error e => .error e
        | .ok s => (s.validate.map fun _ => s).mapError .invalid

/-- Settings from JSON text, or the fault of a file of the given name. -/
def ofJson (path text : String) : Except LoadFault Settings :=
  (parseJson text).mapError fun e =>
    .malformed path (e.position?.map (·.line)) (e.position?.map (·.column)) e.message

/-- Load settings from a file of JSON text. -/
def loadJson (env : Environment) (path : String) (content : Option ByteArray) :
    Except LoadFault Settings :=
  loadWith (ofJson path) env path content

/-- Settings from YAML text, or the fault of a file of the given name. -/
def ofYaml (path text : String) : Except LoadFault Settings :=
  (parseYaml text).mapError fun e =>
    .malformed path (e.mark?.map (·.line + 1)) (e.mark?.map (·.column + 1)) e.message

/-- Load settings from a file of YAML text. -/
def loadYaml (env : Environment) (path : String) (content : Option ByteArray) :
    Except LoadFault Settings :=
  loadWith (ofYaml path) env path content

end CanonicalReply.Settings
