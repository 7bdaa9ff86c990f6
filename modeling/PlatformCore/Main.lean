/-
  The program: launches the platform with the files and variables of the machine, and ends it
  when its standard input ends.

  The log goes to standard output, the report of a failed launch to standard error.  All that is
  decided is decided by `launch` and `Running.stop`.
-/
import PlatformCore.Document.Json
import PlatformCore.Launch

namespace PlatformCore

def variableNames : List String :=
  [Environment.configPath, "CK_MAX_LOGIN_FAILURE", "CK_BAN_LENGTH_SECONDS",
    "CK_TOKEN_TTL_SECONDS", "CK_BUS_CAPACITY", "CK_LOG_LEVEL", "RUST_LOG", "CK_JSON_LOGS"]

def readError : IO.Error → ReadError
  | .permissionDenied _ _ _ => .forbidden
  | .inappropriateType _ code _ => if code = 20 then .notDirectory else .isDirectory
  | .invalidArgument _ code _ => if code = 36 then .nameTooLong else .badName
  | _ => .notFound

def readFile (path : String) : IO (Except ReadError (List UInt8)) := do
  try
    let bytes ← IO.FS.readBinFile path
    return .ok bytes.data.toList
  catch e => return .error (readError e)

def valueText : Log.Value → List Char
  | .text s => Json.quoted s
  | .number n => Json.integer n
  | .bool b => (toString b).toList

def recordLine (isJson : Bool) (r : Log.Record) : String :=
  if isJson then
    let fields := (("message", .text r.message) :: r.fields).map fun f =>
      Json.quoted f.1 ++ ':' :: valueText f.2
    String.ofList <|
      "\x7b\"level\":".toList ++ Json.quoted r.level.name ++ ",\"fields\":\x7b".toList ++
        List.intercalate [','] fields ++ "\x7d,\"target\":".toList ++ Json.quoted r.target ++
        ['\x7d']
  else
    let fields := r.fields.map fun f => " " ++ f.1 ++ "=" ++ String.ofList (valueText f.2)
    r.level.name ++ " " ++ r.target ++ ": " ++ r.message ++ String.join fields

def writeLog (isJson : Bool) (w : Written) : IO Unit :=
  (w.outside ++ w.inside).forM fun r => IO.println (recordLine isJson r)

partial def awaitEnd (input : IO.FS.Stream) : IO Unit := do
  let line ← input.getLine
  unless line.isEmpty do awaitEnd input

end PlatformCore

open PlatformCore in
def main : IO UInt32 := do
  let values ← variableNames.mapM fun v => return (v, ← IO.getEnv v)
  let env : Environment := fun v => (values.lookup v).join
  let file ← match env Environment.configPath with
    | some path => readFile path
    | none => pure (.error .notFound)
  let key ← IO.getRandomBytes 32
  match launch (fun _ => file) env key.data.toList ⟨0⟩ with
  | .error e =>
    IO.eprint e.report
    return 1
  | .ok (running, written) =>
    let isJson := running.settings.telemetry.jsonLogs
    writeLog isJson written
    awaitEnd (← IO.getStdin)
    writeLog isJson running.stop.2
    return 0
