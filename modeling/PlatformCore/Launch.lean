/-
  Launching the platform, and ending it.

  A launch loads the settings, sets up the log, builds the platform and announces that it is up.
  If one of these fails there is a report and nothing else; all that is written to the log comes
  after the log was set up.

  * `launch` is the launch, and `Running.stop` the end of what it started;
  * `LaunchError.report` is the report: what failed, and what lies behind it, indented;
  * `Written` holds what is told to the log, by the thread that tells it.
-/
import PlatformCore.Log.Setup
import PlatformCore.Platform
import PlatformCore.Settings.Load

namespace PlatformCore

open Log

/-! ## Reports -/

inductive LaunchError where
  | settings (e : LoadError)
  | log (e : SetupError)
  | platform (e : Bus.StartError)
deriving DecidableEq, Repr

namespace LaunchError

def context : LaunchError → String
  | settings _ => "Failed to load configuration"
  | log _ => "Failed to initialize logging"
  | platform _ => "Failed to build kernel container"

def causes : LaunchError → List String
  | settings e => e.causes
  | log e => [e.message]
  | platform e => [e.message]

/-- A text with what stands before its first line and before the others. -/
def indented (first other text : String) : String :=
  first ++ String.intercalate ("\n" ++ other) (text.splitOn "\n")

/-- The causes, each on lines of its own: numbered if there are several. -/
def causeLines : List String → List String
  | [c] => [indented "    " "    " c]
  | cs => cs.zipIdx.map fun c =>
    let number := toString c.2
    let pad := String.ofList (List.replicate (5 - number.length) ' ')
    indented (pad ++ number ++ ": ") "       " c.1

def report (e : LaunchError) : String :=
  "Error: " ++ e.context ++ "\n\nCaused by:\n" ++
    String.intercalate "\n" (causeLines e.causes) ++ "\n"

end LaunchError

/-! ## What is written -/

/-- The records of the main thread (`outside`) and those of the dispatch thread (`inside`). -/
structure Written where
  outside : List Record := []
  inside : List Record := []

namespace Written

/-- The records that a filter lets through, if they arise within given spans on the main
    thread. -/
def through (w : Written) (f : Log.Filter) (spans : List Span) : Written where
  outside := w.outside.filter (f.admits spans)
  inside := w.inside.filter (f.admits [])

def append (v w : Written) : Written := ⟨v.outside ++ w.outside, v.inside ++ w.inside⟩

instance : Append Written := ⟨append⟩

def ofTrail (t : Stage.Trail) : Written := ⟨t.outside, t.inside⟩

end Written

/-! ## The launch -/

def launchTarget : String := "kernel_runtime"

def assemblyTarget : String := "kernel_runtime::container"

def launchRecord (message : String) (fields : List (String × Value)) : Record :=
  { level := .info, target := launchTarget, message := message, fields := fields }

def setupRecord (t : TelemetrySettings) : Record :=
  { level := .debug, target := "kernel_runtime::telemetry", message := "Logging initialized"
    fields := [("log_level", .text t.logLevel), ("json_logs", .bool t.jsonLogs)] }

def greeting (s : Settings) (path : Option String) : List Record :=
  [setupRecord s.telemetry,
    launchRecord "===========================================" [],
    launchRecord "  Collab-Kernel v0.1.0" [],
    launchRecord "===========================================" [],
    match path with
    | some p => launchRecord "Loaded configuration file" [("path", .text p)]
    | none => launchRecord "No CK_CONFIG set, using defaults and environment" []] ++
  if s.credentials = [] then
    [{ level := .warn, target := launchTarget
       message := "No credentials configured, every login will be rejected" }]
  else []

def assemblySpan (s : Settings) : Span :=
  { name := "with_parts", target := assemblyTarget
    fields := [("bus_capacity", .number s.bus.capacity.toNat)] }

def sessionsRecord (s : SessionSettings) : Record :=
  { level := .info, target := assemblyTarget, message := "Token authenticator ready"
    fields := [("max_login_failure", .number s.maxLoginFailure.toNat),
      ("ban_length_secs", .number s.banLengthSecs.toNat),
      ("token_ttl_secs", .number s.tokenTtlSecs.toNat)] }

def assemblyRecords (s : Settings) (p : Platform) (marks : List Stage.Mark) : Written :=
  { outside := [p.stage.bus.startRecord, sessionsRecord s.session] } ++
    Written.ofTrail (p.stage.trail marks)

/-- A platform that is up. -/
structure Running where
  settings : Settings
  filter : Log.Filter
  platform : Platform

/-- Launches the platform: gives it with what was written, or fails. -/
def launch (files : String → Except ReadError (List UInt8)) (env : Environment)
    (key : Session.Token.Key) (clock : Clock) : Except LaunchError (Running × Written) := do
  let s ← (Settings.load files env).mapError .settings
  let f ← (setUp s.telemetry false).mapError .log
  let (p, marks) ← (Platform.assemble s key clock).mapError .platform
  let (q, _, trail) := p.perform .start
  let written :=
    Written.through { outside := greeting s (env Environment.configPath) } f [] ++
      (assemblyRecords s p marks).through f [assemblySpan s] ++
      (Written.ofTrail trail).through f [] ++
      Written.through
        { outside := [launchRecord "Kernel is running. Press Ctrl+C to stop." []] } f []
  return (⟨s, f, q⟩, written)

/-! ## The end -/

def stoppingRecord : Record :=
  { level := .info, target := assemblyTarget, message := "Initiating graceful shutdown..." }

def stoppedRecord (b : Bus Stage.Consumer) : Record :=
  { level := .info, target := assemblyTarget, message := "Shutdown complete"
    fields := [("dispatched", .number b.stats.dispatched),
      ("consumer_failures", .number b.stats.consumerFailures)] }

/-- Ends the platform: gives it as it is then, with what was written. -/
def Running.stop (r : Running) : Running × Written :=
  let (p, _, trail) := r.platform.perform .shutdown
  let written : Written :=
    { outside := [stoppingRecord] } ++ Written.ofTrail trail ++
      { outside := [stoppedRecord p.stage.bus] }
  ({ r with platform := p }, written.through r.filter [])

end PlatformCore
