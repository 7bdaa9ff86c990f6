/-
  The stage: an event bus with its consumers, run by one schedule.

  Four threads share the bus: the dispatch thread, the main thread, a producer and a closer.
  The stage always makes the first of these steps that can be made: a publish call whose event
  the queue accepts or refuses; a step of the dispatch thread, which prefers events to the stop
  signal; a publish call whose event finds the queue full; a step of a close call.  It rests when
  there is none.  The dispatch thread is held while a consumer waits at the closed gate.

  * `Stage.next?` makes one step, each a step of the bus or an act of the consumer at work;
  * `Stage.settle` makes steps until the stage rests, at most `Stage.patience` of them;
  * `Stage.perform` carries out an order; it turns down one that would keep the main thread
    waiting.
-/
import PlatformCore.Bus.Report
import PlatformCore.Bus.Step
import PlatformCore.Stage.Company

namespace PlatformCore

open Bus

/-- An event bus with its consumers. -/
structure Stage where
  bus : Bus Stage.Consumer
  company : Stage.Company := {}
  reaction : Stage.Reaction Stage.Consumer := {}
  isGateClosed : Bool := false
  /-- The events that each thread is still to publish. -/
  outbox : Registry Thread (List Event) := ∅
  /-- The actors that orders registered, by their labels. -/
  cast : Registry String Stage.Consumer := ∅

namespace Stage

/-- What is seen of the stage. -/
inductive Mark where
  | bus (e : Entry Consumer)
  | note (r : Log.Record)

/-! ## Threads -/

/-- The thread that carries out orders. -/
def main : Thread := .caller 0

/-- The thread that publishes lists of events. -/
def producer : Thread := .caller 1

/-- The thread that closes the bus. -/
def closer : Thread := .caller 2

def step? (s : Stage) (l : Label Consumer) : Option (Stage × List Mark) :=
  (s.bus.step? l).map fun r => ({ s with bus := r.1 }, r.2.map .bus)

/-- A thread publishes what it still has to, as long as that does not keep it waiting. -/
def send? (t : Thread) (s : Stage) : Option (Stage × List Mark) :=
  match s.bus.calls.get? t, s.outbox.get? t with
  | some (.publishing _), _ => if s.bus.answer = .timedOut then none else s.step? (.offer t)
  | none, some (e :: es) => { s with outbox := s.outbox.insert t es }.step? (.publish t e)
  | _, _ => none

def stall? (t : Thread) (s : Stage) : Option (Stage × List Mark) :=
  match s.bus.calls.get? t with
  | some (.publishing o) => if o.hasWaited then none else s.step? (.offer t)
  | _ => none

def goOn? (t : Thread) (s : Stage) : Option (Stage × List Mark) :=
  (s.step? (.claim t)).or (s.step? (.finish t))

def work? (s : Stage) : Option (Stage × List Mark) :=
  match s.reaction.acts with
  | [] => s.step? (.endWork s.reaction.ending)
  | a :: acts =>
    let rest := { s with reaction := { s.reaction with acts := acts } }
    match a with
    | .note r => some (rest, [.note r])
    | .waitAtGate => if s.isGateClosed then none else some (rest, [])
    | .publish e => rest.step? (.publish .dispatch e)
    | .subscribe f c => rest.step? (.subscribe .dispatch f c)
    | .close => rest.step? (.close .dispatch)

/-- Makes the consumer that has been told of an event choose what it does. -/
def react (s : Stage) : Stage :=
  match s.bus.phase with
  | .handling d c =>
    let r := s.company.react c d.event
    { s with company := r.1, reaction := r.2 }
  | _ => s

def dispatch? (s : Stage) : Option (Stage × List Mark) :=
  match s.bus.calls.get? .dispatch, s.bus.phase with
  | some _, _ => (send? .dispatch s).or (stall? .dispatch s)
  | none, .handling _ _ => s.work?
  | none, .selecting => (s.step? .takeEvent).or (s.step? .takeStop)
  | none, _ => (s.step? .proceed).map fun r => (r.1.react, r.2)

def next? (s : Stage) : Option (Stage × List Mark) :=
  (send? main s).or <| (send? producer s).or <| s.dispatch?.or <| (stall? main s).or <|
    (stall? producer s).or (goOn? closer s)

/-- Makes steps until the stage rests, at most `limit`, and puts what is seen before `seen`, the
    latest first. -/
def settleFrom (seen : List Mark) : (limit : Nat) → Stage → Stage × List Mark
  | 0, s => (s, seen)
  | n + 1, s =>
    match s.next? with
    | none => (s, seen)
    | some r => settleFrom (r.2.reverse ++ seen) n r.1

/-- The greatest number of steps between two orders. -/
def patience : Nat := 100000000

/-- Makes steps until the stage rests. -/
def settle (s : Stage) : Stage × List Mark :=
  let r := settleFrom [] patience s
  (r.1, r.2.reverse)

/-! ## What is seen -/

/-- What orders make known: the deliveries to actors, with the labels of these, and what the log was
    told by the threads that use the bus (`outside`) and by the dispatch thread (`inside`). -/
structure Trail where
  deliveries : List (String × Event) := []
  outside : List Log.Record := []
  inside : List Log.Record := []

def delivery? (s : Stage) : Mark → Option (String × Event)
  | .bus (.told (.actor n) e) => (s.company.actors[n]?).map fun a => (a.label, e)
  | _ => none

def inside? (s : Stage) : Mark → Option Log.Record
  | .note r => some r
  | .bus e => if e.isInside then e.record? s.bus s.company.nameOf else none

/-- What another thread told the log in a mark.  That it waits is part of a reply. -/
def outside? (s : Stage) : Mark → Option Log.Record
  | .note _ => none
  | .bus (.stalled _ _) => none
  | .bus e => if e.isInside then none else e.record? s.bus s.company.nameOf

def trail (s : Stage) (marks : List Mark) : Trail where
  deliveries := marks.filterMap s.delivery?
  outside := marks.filterMap s.outside?
  inside := marks.filterMap s.inside?

/-! ## Orders -/

/-- What the stage can be told to do. -/
inductive Order where
  | subscribe (f : Filter) (label name : String) (rules : List (Condition × Deed))
  | publish (es : List Event)
  | produce (es : List Event)
  | hold
  | release
  | close
  | status

/-- What comes of an order. -/
inductive Reply where
  | done
  | produced
  | blocked (r : Option Log.Record)
  | closing
  /-- It would have kept the main thread waiting, and nothing was done. -/
  | wouldBlock
deriving DecidableEq, Repr

def isHeld (s : Stage) : Bool := s.bus.phase.isHandling

def room (s : Stage) : Nat := s.bus.capacity - s.bus.queue.length

def isBusy (s : Stage) (t : Thread) : Bool := (s.bus.calls.get? t).isSome

def post (s : Stage) (t : Thread) (es : List Event) : Stage :=
  { s with outbox := s.outbox.insert t es }

def engage (s : Stage) (label name : String) (rules : List (Condition × Deed)) :
    Stage × Consumer :=
  match s.cast.get? label with
  | some c => (s, c)
  | none =>
    let (co, c) := s.company.add { label := label, name := name, rules := rules }
    ({ s with company := co, cast := s.cast.insert label c }, c)

def settleWith (s : Stage) (marks : List Mark) (reply : Stage → List Mark → Reply) :
    Stage × Reply × List Mark :=
  let (s, more) := s.settle
  (s, reply s (marks ++ more), marks ++ more)

def stepAndSettle (s : Stage) (l : Label Consumer) (reply : Stage → List Mark → Reply) :
    Stage × Reply × List Mark :=
  match s.step? l with
  | some (s, marks) => s.settleWith marks reply
  | none => (s, .wouldBlock, [])

def stallRecord? (s : Stage) (marks : List Mark) : Option Log.Record :=
  marks.reverse.findSome? fun
    | .bus (.stalled t e) =>
      if t = producer then (Entry.stalled t e : Entry Consumer).record? s.bus s.company.nameOf
      else none
    | _ => none

def carryOut (s : Stage) : Order → Stage × Reply × List Mark
  | .subscribe f label name rules =>
    let (s, c) := s.engage label name rules
    s.stepAndSettle (.subscribe main f c) fun _ _ => .done
  | .publish es =>
    if s.isHeld ∧ s.room < es.length then (s, .wouldBlock, [])
    else (s.post main es).settleWith [] fun _ _ => .done
  | .produce es =>
    if s.isBusy producer then (s, .wouldBlock, [])
    else
      (s.post producer es).settleWith [] fun s marks =>
        if s.isBusy producer then .blocked (s.stallRecord? marks) else .produced
  | .hold => ({ s with isGateClosed := true }, .done, [])
  | .release => { s with isGateClosed := false }.settleWith [] fun _ _ => .done
  | .close =>
    if s.isBusy producer ∨ s.isBusy closer then (s, .wouldBlock, [])
    else
      s.stepAndSettle (.close closer) fun s _ => if s.isBusy closer then .closing else .done
  | .status => (s, .done, [])

def perform (s : Stage) (o : Order) : Stage × Reply × Trail :=
  let (s, reply, marks) := s.carryOut o
  (s, reply, s.trail marks)

def start (capacity : Nat) : Except StartError Stage := do
  return { bus := ← Bus.start capacity }

end Stage

end PlatformCore
