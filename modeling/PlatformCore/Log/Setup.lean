/-
  Setting up the log.

  * `Log.setUp` gives the filter of the settings; it fails if they spell none, or if a log has
    been set up before.
-/
import PlatformCore.Log.Filter
import PlatformCore.Settings.Basic

namespace PlatformCore.Log

inductive SetupError where
  | badFilter (text : String) (fault : DirectiveFault)
  | alreadySetUp
deriving DecidableEq, Repr

def SetupError.message : SetupError → String
  | badFilter text fault => "Invalid log filter " ++ Text.quote text ++ ": " ++ fault.message
  | alreadySetUp =>
    "Failed to install global subscriber: a global default trace dispatcher has already been set"

def filterOf (t : TelemetrySettings) : Except SetupError Filter :=
  (Filter.ofText? t.logLevel).mapError (.badFilter t.logLevel)

def setUp (t : TelemetrySettings) (isSetUp : Bool) : Except SetupError Filter := do
  let f ← filterOf t
  if isSetUp then .error .alreadySetUp else .ok f

end PlatformCore.Log
