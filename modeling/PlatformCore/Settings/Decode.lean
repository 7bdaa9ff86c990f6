/-
  Settings from documents.

  Every section and every field may be left out and then takes its default; other fields do
  not matter.  A section may also be a sequence of the values of its fields in their order.
  An entry of the users needs both its fields.

  * `Settings.ofNode?` reads all settings and `SessionSettings.ofNode?` those of sessions.
    The flag `exact` tells whether a sequence may not be longer than the fields.
-/
import PlatformCore.Document.Node
import PlatformCore.Settings.Basic

namespace PlatformCore

variable (exact : Bool)

def Node.word32? (n : Node) : Option UInt32 := (n.natural? 4294967296).map UInt32.ofNat

def Node.word64? (n : Node) : Option UInt64 :=
  (n.natural? 18446744073709551616).map UInt64.ofNat

def BusSettings.ofNode? (n : Node) : Option BusSettings := do
  match ← n.fields? exact ["capacity", "publish_retry_ms"] with
  | [capacity, retry] =>
    let d : BusSettings := {}
    return {
      capacity := ← Node.fieldD Node.word64? d.capacity capacity
      publishRetryMillis := ← Node.fieldD Node.word64? d.publishRetryMillis retry }
  | _ => none

def SessionSettings.ofNode? (n : Node) : Option SessionSettings := do
  match ← n.fields? exact ["max_login_failure", "ban_length_secs", "token_ttl_secs",
    "trusted_clients", "trust_loopback", "cookie_name", "cookie_path"] with
  | [failures, ban, ttl, trusted, loopback, name, path] =>
    let d : SessionSettings := {}
    return {
      maxLoginFailure := ← Node.fieldD Node.word32? d.maxLoginFailure failures
      banLengthSecs := ← Node.fieldD Node.word64? d.banLengthSecs ban
      tokenTtlSecs := ← Node.fieldD Node.word64? d.tokenTtlSecs ttl
      trustedClients := ← Node.fieldD (Node.items? Node.text?) d.trustedClients trusted
      trustLoopback := ← Node.fieldD Node.flag? d.trustLoopback loopback
      cookieName := ← Node.fieldD Node.text? d.cookieName name
      cookiePath := ← Node.fieldD Node.text? d.cookiePath path }
  | _ => none

def TelemetrySettings.ofNode? (n : Node) : Option TelemetrySettings := do
  match ← n.fields? exact ["log_level", "json_logs", "thread_ids"] with
  | [level, json, ids] =>
    let d : TelemetrySettings := {}
    return {
      logLevel := ← Node.fieldD Node.text? d.logLevel level
      jsonLogs := ← Node.fieldD Node.flag? d.jsonLogs json
      threadIds := ← Node.fieldD Node.flag? d.threadIds ids }
  | _ => none

def CredentialEntry.ofNode? (n : Node) : Option CredentialEntry := do
  match ← n.fields? exact ["login", "password"] with
  | [some login, some password] => return ⟨← login.text?, ← password.text?⟩
  | _ => none

def Settings.ofNode? (n : Node) : Option Settings := do
  match ← n.fields? exact ["bus", "auth", "telemetry", "credentials"] with
  | [bus, session, telemetry, credentials] =>
    return {
      bus := ← Node.fieldD (BusSettings.ofNode? exact) {} bus
      session := ← Node.fieldD (SessionSettings.ofNode? exact) {} session
      telemetry := ← Node.fieldD (TelemetrySettings.ofNode? exact) {} telemetry
      credentials := ←
        Node.fieldD (Node.items? (CredentialEntry.ofNode? exact)) [] credentials }
  | _ => none

end PlatformCore
