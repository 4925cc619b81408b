import Scenarist.Settings.Basic
import Scenarist.Toml.Reader
import Scenarist.Toml.Writer
import Scenarist.Failure

/-!
# Settings files

Settings are kept in a TOML file. A file that is missing stands for the settings where nothing is
said, and in either case the environment has the last word.
-/

namespace Scenarist.Settings

/-- The settings in the text of a file. -/
def ofToml (text : String) : Except Failure Settings :=
  match Toml.parse? text with
  | none => .error (.tomlRead "malformed")
  | some v =>
    match read .toml v.toDocument with
    | .ok s => .ok s
    | .error (.mismatch i) => .error (.tomlRead i.message)
    | .error .malformed => .error (.tomlRead "malformed")

/-- The text of a file with the settings. -/
def toToml (s : Settings) : Except Failure String :=
  match Toml.ofJson? s.toJson with
  | some (.table members) => .ok (Toml.render members)
  | _ => .error (.tomlWrite "unsupported value")

/-- The settings in a file, if there is one, under an environment. -/
def load (e : Environment) (text : Option String) : Except Failure Settings :=
  match text with
  | none => .ok (e.override default)
  | some text => (ofToml text).map e.override

end Scenarist.Settings
