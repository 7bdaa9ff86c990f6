/-
  Settings from environment variables, laid over others.

  Four variables hold numbers, two the directives of the log, and one whether it is written as
  JSON.  A number may have blanks around it and one plus sign before it.  A variable that is
  not set leaves its field alone, and none touches a field that is not its own.

  * `Settings.overlay` lays the variables over settings; the first bad variable in the order
    of the list fails.
-/
import PlatformCore.Settings.Basic
import PlatformCore.Text.Blank
import PlatformCore.Text.Numeral

namespace PlatformCore

/-! ## Variables -/

abbrev Environment := String → Option String

/-- A variable whose value is not what it should be. -/
structure BadVariable where
  name : String
  value : String
deriving DecidableEq, Repr

namespace Environment

def configPath : String := "CK_CONFIG"

def number? (env : Environment) (bound : Nat) (name : String) :
    Except BadVariable (Option Nat) :=
  match env name with
  | none => .ok none
  | some value =>
    match Text.numeral? bound (Text.trim value.toList) with
    | some n => .ok (some n)
    | none => .error ⟨name, value⟩

def isYes (value : String) : Bool :=
  value == "1" || value.toList.map Char.toLower == "true".toList

end Environment

def Settings.overlay (s : Settings) (env : Environment) : Except BadVariable Settings := do
  let failures ← env.number? 4294967296 "CK_MAX_LOGIN_FAILURE"
  let ban ← env.number? 18446744073709551616 "CK_BAN_LENGTH_SECONDS"
  let ttl ← env.number? 18446744073709551616 "CK_TOKEN_TTL_SECONDS"
  let capacity ← env.number? 18446744073709551616 "CK_BUS_CAPACITY"
  return { s with
    session := { s.session with
      maxLoginFailure := (failures.map UInt32.ofNat).getD s.session.maxLoginFailure
      banLengthSecs := (ban.map UInt64.ofNat).getD s.session.banLengthSecs
      tokenTtlSecs := (ttl.map UInt64.ofNat).getD s.session.tokenTtlSecs }
    bus := { s.bus with
      capacity := (capacity.map UInt64.ofNat).getD s.bus.capacity }
    telemetry := { s.telemetry with
      logLevel := ((env "CK_LOG_LEVEL").or (env "RUST_LOG")).getD s.telemetry.logLevel
      jsonLogs := ((env "CK_JSON_LOGS").map Environment.isYes).getD s.telemetry.jsonLogs } }

end PlatformCore
