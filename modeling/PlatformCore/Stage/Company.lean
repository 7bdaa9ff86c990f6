/-
  The consumers of a platform, and what they do about an event.

  Besides the watchers there are actors: consumers that follow rules.  A rule says when it
  applies and what is to be done.  All rules that apply to an event are chosen before any is
  followed, and the first that fails or panics is the last that is followed.

  * `Reaction` is what a consumer does about an event: first its acts, then how it ends;
  * `Company.react` chooses a reaction, and says what the consumers know afterwards.
-/
import PlatformCore.Bus.Basic
import PlatformCore.Watchers

namespace PlatformCore.Stage

open Bus

/-! ## Reactions -/

/-- What a consumer does while it works on an event. -/
inductive Act (κ : Type) where
  | note (r : Log.Record)
  | waitAtGate
  | publish (e : Event)
  | subscribe (f : Filter) (c : κ)
  | close
deriving Repr

/-- What a consumer does about an event, and how it ends. -/
structure Reaction (κ : Type) where
  acts : List (Act κ) := []
  ending : Ending := .ok
deriving Repr

def Reaction.after {κ : Type} (a : Act κ) (r : Reaction κ) : Reaction κ :=
  { r with acts := a :: r.acts }

/-! ## Actors -/

/-- When a rule applies: to what event, and how many times.  What is absent does not matter. -/
structure Condition where
  description : Option String := none
  kind : Option EventKind := none
  times : Option Nat := none
deriving DecidableEq, Repr

/-- Whether a rule applies to an event after it has applied a number of times. -/
def Condition.isMet (c : Condition) (count : Nat) (e : Event) : Bool :=
  c.description.all (· == e.description) && c.kind.all (· == e.kind) && c.times.all (count < ·)

/-- What a rule says is to be done. -/
inductive Deed where
  | fail (text : String)
  | panic (text : String)
  | waitAtGate
  | publish (e : Event)
  | close
  | subscribe (f : Filter) (label name : String) (rules : List (Condition × Deed))

instance : Inhabited Deed := ⟨.waitAtGate⟩

/-- A consumer that follows rules. -/
structure Actor where
  /-- What it is called where deliveries are shown. -/
  label : String
  name : String
  rules : List (Condition × Deed) := []
  counts : List Nat := rules.map fun _ => 0

namespace Actor

/-- The rules with how often each has applied, and whether it applies to an event. -/
def chosen (a : Actor) (e : Event) : List (Deed × Nat × Bool) :=
  (a.rules.zip a.counts).map fun r => (r.1.2, r.2, r.1.1.isMet r.2 e)

def deeds (a : Actor) (e : Event) : List Deed :=
  ((a.chosen e).filter (·.2.2)).map (·.1)

def count (a : Actor) (e : Event) : Actor :=
  { a with counts := (a.chosen e).map fun r => if r.2.2 then r.2.1 + 1 else r.2.1 }

end Actor

/-! ## The company -/

/-- A consumer of the platform. -/
inductive Consumer where
  | lifecycle
  | audit
  | actor (n : Nat)
deriving DecidableEq, Repr

/-- All consumers, and what they know. -/
structure Company where
  lifecycle : Lifecycle := {}
  audit : SecurityAudit := {}
  actors : List Actor := []

namespace Company

def nameOf (co : Company) : Consumer → String
  | .lifecycle => Lifecycle.name
  | .audit => SecurityAudit.name
  | .actor n => ((co.actors[n]?).map (·.name)).getD ""

def add (co : Company) (a : Actor) : Company × Consumer :=
  ({ co with actors := co.actors ++ [a] }, .actor co.actors.length)

def follow (co : Company) : List Deed → Company × Reaction Consumer
  | [] => (co, {})
  | .fail text :: _ => (co, { ending := .failed text })
  | .panic text :: _ => (co, { ending := .panicked text })
  | .waitAtGate :: ds => Prod.map id (·.after .waitAtGate) (co.follow ds)
  | .publish e :: ds => Prod.map id (·.after (.publish e)) (co.follow ds)
  | .close :: ds => Prod.map id (·.after .close) (co.follow ds)
  | .subscribe f label name rules :: ds =>
    let (co, c) := co.add { label := label, name := name, rules := rules }
    Prod.map id (·.after (.subscribe f c)) (co.follow ds)

def react (co : Company) (c : Consumer) (e : Event) : Company × Reaction Consumer :=
  match c with
  | .lifecycle =>
    match co.lifecycle.heed? e with
    | .ok (l, r) => ({ co with lifecycle := l }, { acts := [.note r] })
    | .error text => (co, { ending := .failed text })
  | .audit =>
    let (a, r) := co.audit.heed e
    ({ co with audit := a }, { acts := r.toList.map .note })
  | .actor n =>
    match co.actors[n]? with
    | none => (co, {})
    | some a => { co with actors := co.actors.set n (a.count e) }.follow (a.deeds e)

end Company

end PlatformCore.Stage
