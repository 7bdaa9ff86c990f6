/-
  Watchers: the platform's own consumers of events.

  The lifecycle watcher counts the starts and shutdowns of the platform, and takes no other
  event.  The security watcher counts failed logins and bans, remembers what the last of them
  said, and lets all other events pass.

  * `Lifecycle.heed?` and `SecurityAudit.heed` are what they make of an event.
-/
import PlatformCore.Bus.Report
import PlatformCore.Event.Identity
import PlatformCore.Log.Record

namespace PlatformCore

open Log

/-! ## Starts and shutdowns -/

/-- How often the platform was seen to start and to shut down. -/
structure Lifecycle where
  started : Nat := 0
  shutdown : Nat := 0
deriving DecidableEq, Repr

namespace Lifecycle

def name : String := "lifecycle-monitor"

def record (e : Event) (message : String) : Record :=
  { level := .info, target := "kernel_runtime::handlers::lifecycle", message := message
    fields := [("event_id", .text e.id.text)] }

/-- What the watcher makes of an event: what it has counted then, and what it tells the log; or
    the error with which it turns down an event that is none of its own. -/
def heed? (l : Lifecycle) (e : Event) : Except String (Lifecycle × Record) :=
  if e.kind = .platformStarted then
    .ok ({ l with started := l.started + 1 }, record e "Platform started")
  else if e.kind = .platformShutdown then
    .ok ({ l with shutdown := l.shutdown + 1 }, record e "Platform shutting down")
  else .error ("unexpected event type " ++ e.kind.name)

end Lifecycle

/-! ## Failed logins and bans -/

/-- What is known of failed logins and bans. -/
structure SecurityAudit where
  loginFailures : Nat := 0
  bans : Nat := 0
  /-- What the last of these events said, the oldest first. -/
  recent : List String := []
deriving DecidableEq, Repr

namespace SecurityAudit

def name : String := "security-auditor"

def recentLimit : Nat := 64

def record (level : Level) (e : Event) : Record :=
  { level := level, target := "kernel_runtime::handlers::security", message := e.description
    fields := [("originator", .text (showOriginator e.originator))] }

/-- Remembers a description, and forgets the oldest if there are too many. -/
def remember (recent : List String) (description : String) : List String :=
  (if recent.length = recentLimit then recent.drop 1 else recent) ++ [description]

/-- What the watcher makes of an event: what it knows then, and what it tells the log. -/
def heed (a : SecurityAudit) (e : Event) : SecurityAudit × Option Record :=
  if e.kind = .loginFailed then
    ({ a with loginFailures := a.loginFailures + 1, recent := remember a.recent e.description },
      some (record .warn e))
  else if e.kind = .clientBanned then
    ({ a with bans := a.bans + 1, recent := remember a.recent e.description },
      some (record .error e))
  else (a, none)

end SecurityAudit

end PlatformCore
