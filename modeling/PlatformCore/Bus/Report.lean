/-
  What the log is told of the event bus.

  * `Entry.record?` is the record of an entry, if it has one, given the names of consumers;
  * `Entry.isInside` tells whether the dispatch thread wrote it.
-/
import PlatformCore.Bus.Basic
import PlatformCore.Event.Identity
import PlatformCore.Log.Record
import PlatformCore.Text.Quoted

namespace PlatformCore

def showName (kind : String) : Option String → String
  | none => "None"
  | some name => "Some(" ++ kind ++ "(" ++ Text.quote name ++ "))"

def showOriginator (o : Option ComponentId) : String := showName "ComponentId" (o.map (·.name))

def showKind (k : Option EventKind) : String := showName "EventType" (k.map (·.name))

namespace Bus

variable {κ : Type}

open Log

def target : String := "kernel_bus::publisher"

def dispatchTarget : String := "kernel_bus::dispatcher"

def startRecord (b : Bus κ) : Record :=
  { level := .info, target := target, message := "Event bus started"
    fields := [("capacity", .number b.capacity)] }

def Entry.isInside : Entry κ → Bool
  | offered t _ | accepted t _ | stalled t _ | refused t _ | subscribed t _ _ | stopRaised t
  | closed t _ => t = .dispatch
  | _ => true

/-- The record of an entry in the log of a bus, if it has one. -/
def Entry.record? (b : Bus κ) (nameOf : κ → String) : Entry κ → Option Record
  | stalled _ e => some
    { level := .warn, target := target, message := "Event queue full, producer waiting"
      fields := [("capacity", .number b.capacity), ("event_type", .text e.kind.name)] }
  | refused _ e => some
    { level := .warn, target := target, message := "Event dropped (dispatcher stopped)"
      fields := [("event_id", .text e.id.text), ("event_type", .text e.kind.name)] }
  | subscribed _ f c => some
    { level := .debug, target := target, message := "New subscription created"
      fields := [("consumer", .text (nameOf c)), ("originator", .text (showOriginator f.originator)),
        ("event_type", .text (showKind f.kind))] }
  | stopRaised .dispatch => some
    { level := .warn, target := target
      message := "Event bus closed from its own dispatch thread, not joining" }
  | closed _ true => some
    { level := .info, target := target, message := "Event bus closed"
      fields := [("published", .number b.stats.published),
        ("dispatched", .number b.stats.dispatched)] }
  | ended c e (.failed text) => some
    { level := .error, target := dispatchTarget, message := "Event consumer failed"
      fields := [("consumer", .text (nameOf c)), ("event_id", .text e.id.text),
        ("event_type", .text e.kind.name), ("error", .text text)] }
  | ended c e (.panicked text) => some
    { level := .error, target := dispatchTarget, message := "Event consumer panicked"
      fields := [("consumer", .text (nameOf c)), ("event_id", .text e.id.text),
        ("event_type", .text e.kind.name), ("panic", .text text)] }
  | _ => none

end Bus

end PlatformCore
