/-
  Loading the settings.

  Settings come in layers: the defaults, the file that a variable names, and the variables; a
  later layer counts.  What comes out must be valid.

  * `Settings.loadFrom` puts the layers together, given what each file holds, and stops at the
    first error: of the file, of a variable, of the whole;
  * `Settings.ofFile` says what a file holds, given its bytes;
  * `LoadError.message` is the text of an error and `LoadError.causes` what lies behind it.
-/
import PlatformCore.Document.Toml
import PlatformCore.FileTree
import PlatformCore.Settings.Decode
import PlatformCore.Settings.Environment
import PlatformCore.Settings.Validity

namespace PlatformCore

/-! ## Errors -/

inductive LoadError where
  | unreadable (path : String) (cause : ReadError)
  | unparsable (path : String)
  | badVariable (v : BadVariable)
  | invalid (f : SettingsFault)
deriving DecidableEq, Repr

namespace LoadError

def message : LoadError → String
  | unreadable path cause => "Failed to read " ++ path ++ ": " ++ cause.message
  | unparsable path => "Failed to parse " ++ path
  | badVariable v => "Invalid value " ++ Text.quote v.value ++ " for " ++ v.name
  | invalid f => "Invalid configuration: " ++ f.message

def causes (e : LoadError) : List String :=
  e.message :: match e with
    | unreadable _ cause => [cause.message]
    | _ => []

end LoadError

/-! ## Layers -/

namespace Settings

/-- Valid settings, or their first fault. -/
def check (s : Settings) : Except SettingsFault Settings :=
  match s.fault? with
  | some f => .error f
  | none => .ok s

def ofFile (files : String → Except ReadError (List UInt8)) (path : String) :
    Except LoadError Settings := do
  let bytes ← if path.toList.contains '\x00' then .error (.unreadable path .badName)
    else (files path).mapError (.unreadable path)
  match Text.ofUtf8? bytes with
  | none => .error (.unreadable path .notText)
  | some text =>
    match (Toml.read? text).bind (ofNode? false) with
    | none => .error (.unparsable path)
    | some s => .ok s

/-- The settings in the file that a variable names, if it does, under the variables. -/
def loadFrom (file : String → Except LoadError Settings) (env : Environment) :
    Except LoadError Settings := do
  let base ← match env Environment.configPath with
    | some path => file path
    | none => .ok {}
  let s ← (base.overlay env).mapError .badVariable
  s.check.mapError .invalid

def load (files : String → Except ReadError (List UInt8)) (env : Environment) :
    Except LoadError Settings :=
  loadFrom (ofFile files) env

end Settings

end PlatformCore
