/-
  Events: what components of the platform tell each other.

  An event carries the name of the component that raised it (if any), a kind by which it
  is routed, a text for people, and an identity and a time that play no part in routing.

  * `Event.display` is the line in which an event is shown;
  * `EventKind.isShutdown` marks the one kind after which nothing more is delivered;
  * `Event.platformStarted`, `Event.platformShutdown` are the events of the platform's
    own life.
-/

namespace PlatformCore

/-! ## Names -/

/-- The name of a component.  Two components are one if their names agree. -/
structure ComponentId where
  name : String
deriving DecidableEq, Repr

/-- The kind of an event, by which it is routed. -/
structure EventKind where
  name : String
deriving DecidableEq, Repr

/-- The order of names: by code point, which is also the order of their UTF-8 bytes. -/
def compareNames (a b : String) : Ordering :=
  if a < b then .lt else if a = b then .eq else .gt

namespace EventKind

def platformStarted : EventKind := ⟨"platform.started"⟩

def platformShutdown : EventKind := ⟨"platform.shutdown"⟩

def loginFailed : EventKind := ⟨"security.login_failed"⟩

def clientBanned : EventKind := ⟨"security.client_banned"⟩

/-- Whether the kind ends all delivery. -/
def isShutdown (k : EventKind) : Bool := k == platformShutdown

theorem isShutdown_iff {k : EventKind} : k.isShutdown = true ↔ k = platformShutdown := by
  simp [isShutdown]

end EventKind

/-! ## Events -/

/-- The identity of an event: 32 hexadecimal digits, most significant first. -/
structure EventId where
  digits : List (Fin 16)
  length_digits : digits.length = 32 := by rfl
deriving DecidableEq, Repr

def EventId.zero : EventId := ⟨List.replicate 32 0, by simp⟩

structure Event where
  id : EventId := .zero
  originator : Option ComponentId
  kind : EventKind
  description : String
  /-- The time at which the event was made, in milliseconds. -/
  timestamp : Int64 := 0
deriving DecidableEq, Repr

namespace Event

def display (e : Event) : String :=
  let line := "[" ++ e.kind.name ++ "] " ++ e.description
  match e.originator with
  | some origin => line ++ " from " ++ origin.name
  | none => line

/-- The event by which component `c` announces that the platform is up. -/
def platformStarted (c : ComponentId) : Event where
  originator := some c
  kind := .platformStarted
  description := "Platform started"

def platformShutdown (c : ComponentId) : Event where
  originator := some c
  kind := .platformShutdown
  description := "Platform shutting down"

end Event

end PlatformCore
