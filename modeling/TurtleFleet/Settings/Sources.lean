import TurtleFleet.Settings.Environment
import TurtleFleet.Toml.Document
import TurtleFleet.Wire.Settings

/-! Settings from files. A file holds a TOML document in UTF-8; environment variables override what
it says. -/

namespace TurtleFleet

/-- What is found under the name of a file. -/
inductive FileState where
  | missing
  /-- It is there but cannot be read. -/
  | unreadable (reason : String)
  | content (bytes : ByteArray)

/-- The content of a file, or the reason why there is none. -/
def FileState.read : FileState → Except String ByteArray
  | missing => .error "No such file or directory (os error 2)"
  | unreadable reason => .error reason
  | content bytes => .ok bytes

namespace Settings

/-- The file that is looked for when no other one is given. -/
def defaultFile : String := "turtle_world.toml"

/-- Reads the settings of a document; what the document leaves out keeps its default. -/
def ofToml? (text : String) : Option Settings := (Toml.parse? text).bind Wire.decode?

def ofFile (environment : Environment) (path : String) (file : FileState) :
    Except SettingsFailure Settings :=
  match file.read with
  | .error reason => .error (.refused (.unreadable path reason))
  | .ok bytes =>
    match String.fromUTF8? bytes with
    | none => .error (.refused (.unreadable path "stream did not contain valid UTF-8"))
    | some text =>
      match ofToml? text with
      | none => .error (.refused (.malformed path))
      | some settings => settings.overridden environment

def ofEnvironment (environment : Environment) : Except SettingsFailure Settings :=
  ({} : Settings).overridden environment

/-- The settings of the default file if it is there, or else of the environment alone. -/
def ofDefaultSources (environment : Environment) (file : FileState) :
    Except SettingsFailure Settings :=
  match file with
  | .missing => ofEnvironment environment
  | file => ofFile environment defaultFile file

end Settings

end TurtleFleet
