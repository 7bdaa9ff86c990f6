/-
  The platform: sessions and the event bus, put together.

  What the session gateway has to tell is published on the bus, where the watchers are
  registered: one for starts and shutdowns, one for failed logins and bans.

  * `Platform.assemble` builds a platform from its settings;
  * `Platform.perform` carries out an order: a request to the desk, an order to the stage, the
    announcement that the platform is up, or its shutdown.
-/
import PlatformCore.Session.Desk
import PlatformCore.Stage.Basic

namespace PlatformCore

/-- Sessions and the event bus, put together. -/
structure Platform where
  desk : Session.Desk
  stage : Stage

namespace Platform

/-! ## Assembly -/

/-- The component in whose name the platform starts and shuts down. -/
def component : ComponentId := ⟨"kernel.platform"⟩

/-- Who is registered from the start, and for what. -/
def watches : List (Filter × Stage.Consumer) :=
  [({ kind := some .platformStarted }, .lifecycle), ({ kind := some .platformShutdown }, .lifecycle),
    ({ kind := some .loginFailed }, .audit), ({ kind := some .clientBanned }, .audit)]

def watch (s : Stage × List Stage.Mark) (w : Filter × Stage.Consumer) :
    Stage × List Stage.Mark :=
  match s.1.step? (.subscribe Stage.main w.1 w.2) with
  | some r => (r.1, s.2 ++ r.2)
  | none => s

/-- Builds a platform with given settings, key and clock, and shows what was seen. -/
def assemble (s : Settings) (key : Session.Token.Key) (clock : Clock) :
    Except Bus.StartError (Platform × List Stage.Mark) := do
  let stage ← Stage.start s.bus.capacity.toNat
  let (stage, marks) := watches.foldl watch (stage, [])
  let desk : Session.Desk :=
    { gateway := ⟨s.session, key⟩, users := .ofEntries s.credentials, clock := clock }
  return (⟨desk, stage⟩, marks)

/-! ## Orders -/

/-- What the platform can be told to do. -/
inductive Order where
  | session (q : Session.Request)
  | stage (o : Stage.Order)
  | start
  | shutdown

/-- What comes of an order. -/
inductive Reply where
  | session (r : Session.Reply)
  | stage (r : Stage.Reply)

/-- Whether a request may raise events. -/
def mayRaise : Session.Request → Bool
  | .login _ _ _ => true
  | _ => false

def maxRaised : Nat := 2

/-- Whether a request that may raise events has to wait: the dispatch thread is held, and the
    queue has no room for what the request may raise. -/
def isCrowded (p : Platform) : Bool := p.stage.isHeld && decide (p.stage.room < maxRaised)

/-- What is seen when events are published that a request raised. -/
def announce (p : Platform) (reply : Session.Reply) (t : Session.Trail) :
    Platform × Reply × Stage.Trail :=
  let (stage, _, trail) := p.stage.perform (.publish t.events)
  ({ p with stage := stage }, .session reply,
    { trail with outside := t.notices.map (·.record) ++ trail.outside })

def perform (p : Platform) : Order → Platform × Reply × Stage.Trail
  | .session q =>
    if mayRaise q && p.isCrowded then (p, .stage .wouldBlock, {})
    else
      let (desk, reply, trail) := p.desk.serve q
      { p with desk := desk }.announce reply trail
  | .stage o =>
    let (stage, reply, trail) := p.stage.perform o
    ({ p with stage := stage }, .stage reply, trail)
  | .start =>
    let (stage, reply, trail) := p.stage.perform (.publish [.platformStarted component])
    ({ p with stage := stage }, .stage reply, trail)
  | .shutdown =>
    if p.stage.isHeld then (p, .stage .wouldBlock, {})
    else
      let (stage, _, first) := p.stage.perform (.publish [.platformShutdown component])
      let (stage, reply, second) := stage.perform .close
      ({ p with stage := stage }, .stage reply,
        { deliveries := first.deliveries ++ second.deliveries
          outside := first.outside ++ second.outside
          inside := first.inside ++ second.inside })

def lifecycle (p : Platform) : Lifecycle := p.stage.company.lifecycle

def audit (p : Platform) : SecurityAudit := p.stage.company.audit

end Platform

end PlatformCore
