/-
  The platform in the hands of one thread, under any schedule.

  The thread does one task after the other: it serves a visit and publishes the events of it, moves
  the clock, tells that the platform is up, publishes some event, or shuts the platform down.
  Meanwhile the dispatch thread goes on in its own time.

  * `Task.perform` is what a task does to the ban list, and the events that are to be published;
  * `Service.move?` begins a task, closes the bus, or makes a step of the stage;
  * `Service.run?` makes a list of such moves, and `Service.Reaches` says which services can come
    of given tasks;
  * `Platform.task?` is the task that an order to a platform is.
-/
import PlatformCore.Platform
import PlatformCore.Session.Visit
import PlatformCore.Stage.Turn

namespace PlatformCore

open Session

/-! ## Tasks -/

/-- What the thread does for the platform.  While it waits the clock may move. -/
inductive Task where
  | visit (v : Visit)
  | wait
  | start
  | publish (e : Event)
  | shutdown

/-- The ban list that a task leaves, and the events that it has the thread publish. -/
def Task.perform (g : Gateway) (b : BanList) : Task → BanList × List Event
  | visit v => ((g.serve b v).bans, (g.serve b v).events)
  | wait => (b, [])
  | start => (b, [.platformStarted Platform.component])
  | publish e => (b, [e])
  | shutdown => (b, [.platformShutdown Platform.component])

/-- How far the thread has come with the shutdown. -/
inductive Door where
  | opened
  | closing
  | closed
deriving DecidableEq, Repr

def Task.door : Task → Door
  | shutdown => .closing
  | _ => .opened

/-! ## The service -/

/-- Sessions and the stage, in the hands of one thread. -/
structure Service where
  gateway : Gateway
  bans : BanList := {}
  stage : Stage
  door : Door := .opened

/-- Whether a thread has no event to publish and no call that has not returned. -/
def Stage.isFree (s : Stage) (t : Bus.Thread) : Bool :=
  !s.isBusy t && ((s.outbox.get? t).getD []).isEmpty

namespace Service

/-- A move of the thread, or a step of the stage. -/
inductive Move where
  | begin (t : Task)
  | close
  | turn (u : Stage.Turn)

/-- Makes a move, if it can be made: the thread goes on to the next thing only when all that it
    published before has come to an end. -/
def move? (s : Service) : Move → Option (Service × List Stage.Mark)
  | .begin t =>
    if s.door = .opened ∧ s.stage.isFree Stage.main then
      let r := t.perform s.gateway s.bans
      some ({ s with bans := r.1, stage := s.stage.post Stage.main r.2, door := t.door }, [])
    else none
  | .close =>
    if s.door = .closing ∧ s.stage.isFree Stage.main then
      (s.stage.step? (.close Stage.closer)).map fun r =>
        ({ s with stage := r.1, door := .closed }, r.2)
    else none
  | .turn u => (s.stage.turn? u).map fun r => ({ s with stage := r.1 }, r.2)

/-- Makes a list of moves, if they can be made, and shows what was seen. -/
def run? (s : Service) : List Move → Option (Service × List Stage.Mark)
  | [] => some (s, [])
  | m :: ms => do
    let (s, marks) ← s.move? m
    let (s, more) ← s.run? ms
    return (s, marks ++ more)

def tasks (ms : List Move) : List Task :=
  ms.filterMap fun
    | .begin t => some t
    | _ => none

def Reaches (s : Service) (ts : List Task) (s' : Service) : Prop :=
  ∃ ms marks, s.run? ms = some (s', marks) ∧ tasks ms = ts

/-- Whether the shutdown has returned. -/
def isDone (s : Service) : Bool := s.door = .closed && !s.stage.isBusy Stage.closer

def ofPlatform (p : Platform) : Service := ⟨p.desk.gateway, p.desk.bans, p.stage, .opened⟩

/-! ## Runs -/

variable {s s₁ s₂ : Service} {m : Move} {ks ms : List Move} {marks more : List Stage.Mark}
  {ts us : List Task}

theorem run?_cons (h₁ : s.move? m = some (s₁, marks)) (h₂ : s₁.run? ms = some (s₂, more)) :
    s.run? (m :: ms) = some (s₂, marks ++ more) := by
  simp [run?, h₁, h₂]

theorem run?_cons_eq_some (h : s.run? (m :: ms) = some (s₂, marks)) :
    ∃ s₁ k l, s.move? m = some (s₁, k) ∧ s₁.run? ms = some (s₂, l) ∧ marks = k ++ l := by
  simp only [run?, Option.bind_eq_bind, Option.bind_eq_some_iff, Prod.exists, Option.pure_def,
    Option.some.injEq, Prod.mk.injEq] at h
  obtain ⟨s₁, k, hk, s₂, l, hl, rfl, rfl⟩ := h
  exact ⟨s₁, k, l, hk, hl, rfl⟩

theorem run?_append (h₁ : s.run? ks = some (s₁, marks)) (h₂ : s₁.run? ms = some (s₂, more)) :
    s.run? (ks ++ ms) = some (s₂, marks ++ more) := by
  induction ks generalizing s marks with
  | nil =>
    cases h₁
    exact h₂
  | cons k ks ih =>
    obtain ⟨s', m₁, m₂, hk, hks, rfl⟩ := run?_cons_eq_some h₁
    rw [List.append_assoc]
    exact run?_cons hk (ih hks)

theorem tasks_append : tasks (ks ++ ms) = tasks ks ++ tasks ms := List.filterMap_append

namespace Reaches

theorem refl : s.Reaches [] s := ⟨[], [], rfl, rfl⟩

theorem trans (h₁ : s.Reaches ts s₁) (h₂ : s₁.Reaches us s₂) : s.Reaches (ts ++ us) s₂ := by
  obtain ⟨ks, _, hk, rfl⟩ := h₁
  obtain ⟨ms, _, hm, rfl⟩ := h₂
  exact ⟨ks ++ ms, _, run?_append hk hm, tasks_append⟩

theorem of_move? (h : s.move? m = some (s₁, marks)) : s.Reaches (tasks [m]) s₁ :=
  ⟨[m], _, run?_cons h rfl, rfl⟩

end Reaches

end Service

/-! ## The orders of a platform -/

namespace Platform

def task? (p : Platform) : Order → Option Task
  | .session (.login method client k) =>
    some (.visit ⟨p.desk.clock.now, p.desk.users.verify, .login method client k⟩)
  | .session (.logout method) =>
    some (.visit ⟨p.desk.clock.now, p.desk.users.verify, .logout method⟩)
  | .session (.whoAmI method caller) =>
    some (.visit ⟨p.desk.clock.now, p.desk.users.verify, .whoAmI method caller⟩)
  | .session (.advance _) | .session (.setClock _) => some .wait
  | .stage (.publish [e]) => some (.publish e)
  | .start => some .start
  | .shutdown => some .shutdown
  | _ => none

/-- The tasks that orders are, each on the platform that the one before left. -/
def tasks? (p : Platform) : List Order → Option (List Task)
  | [] => some []
  | o :: os => do
    let t ← p.task? o
    let ts ← (p.perform o).1.tasks? os
    return t :: ts

def after (p : Platform) (os : List Order) : Platform := os.foldl (fun p o => (p.perform o).1) p

end Platform

end PlatformCore
