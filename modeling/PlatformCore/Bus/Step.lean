/-
  The steps of the event bus.

  Every step of every thread is a step of its own: an offer to the queue, the raising of the
  stop signal, each look at the queue, each call of a consumer, and each thing that the dispatch
  thread lets go of at its end.  A run is any sequence of such steps, so it may mix the threads
  in any way.

  * `Bus.step?` carries out one step, if it can be made, and reports it;
  * `Bus.run?` carries out a list of steps, and `Bus.Reachable` says that a bus can come out of
    one.

  The dispatch thread tells the consumers that the table names when it takes an event, one after
  the other.  After an event that shuts the platform down it leaves the loop; after a stop signal
  it leaves the loop as soon as it finds the queue empty.
-/
import PlatformCore.Bus.Basic

namespace PlatformCore.Bus

variable {κ : Type}

/-- A step of a thread. -/
inductive Label (κ : Type) where
  | publish (t : Thread) (e : Event)
  | offer (t : Thread)
  | subscribe (t : Thread) (f : Filter) (c : κ)
  | close (t : Thread)
  | claim (t : Thread)
  | finish (t : Thread)
  | takeEvent
  | takeStop
  | proceed
  | endWork (o : Ending)
deriving Repr

/-! ## Calls -/

def publish? (b : Bus κ) (t : Thread) (e : Event) : Option (Bus κ × List (Entry κ)) :=
  if b.mayCall t then
    some ({ b with calls := b.calls.insert t (.publishing ⟨e, false⟩) }, [.offered t e])
  else none

def offer? (b : Bus κ) (t : Thread) : Option (Bus κ × List (Entry κ)) :=
  match b.calls.get? t with
  | some (.publishing o) => some (b.receive t o b.answer)
  | _ => none

def subscribe? (b : Bus κ) (t : Thread) (f : Filter) (c : κ) :
    Option (Bus κ × List (Entry κ)) :=
  if b.mayCall t then some ({ b with table := b.table.insert f c }, [.subscribed t f c])
  else none

/-- A thread calls close.  On the dispatch thread the call returns at once. -/
def close? (b : Bus κ) (t : Thread) : Option (Bus κ × List (Entry κ)) :=
  if b.mayCall t then
    some ({ b with
      isStopRaised := true
      calls := if t = .dispatch then b.calls else b.calls.insert t .closing }, [.stopRaised t])
  else none

/-- A close call decides what to wait for: the first for the end of the dispatch thread, all
    others until it has let go of all it held. -/
def claim? (b : Bus κ) (t : Thread) : Option (Bus κ × List (Entry κ)) :=
  match b.calls.get? t with
  | some .closing =>
    some ({ b with
      hasHandle := false
      calls := b.calls.insert t (if b.hasHandle then .joining else .awaiting) }, [])
  | _ => none

def finish? (b : Bus κ) (t : Thread) : Option (Bus κ × List (Entry κ)) :=
  match b.calls.get? t with
  | some .joining =>
    if b.phase.isGone then some ({ b with calls := b.calls.erase t }, [.closed t true])
    else none
  | some .awaiting =>
    if b.phase.isReleased then some ({ b with calls := b.calls.erase t }, [.closed t false])
    else none
  | _ => none

/-! ## Dispatching -/

/-- The dispatch thread takes the oldest event and looks up who is to be told of it. -/
def begin (b : Bus κ) (isDraining : Bool) (e : Event) (rest : List Event) :
    Bus κ × List (Entry κ) :=
  ({ b with queue := rest, phase := .delivering ⟨e, isDraining, b.table.matching e⟩ }, [.taken e])

def takeEvent? (b : Bus κ) : Option (Bus κ × List (Entry κ)) :=
  match b.phase, b.queue with
  | .selecting, e :: rest => some (b.begin false e rest)
  | _, _ => none

def takeStop? (b : Bus κ) : Option (Bus κ × List (Entry κ)) :=
  match b.phase, b.isStopRaised with
  | .selecting, true => some ({ b with phase := .draining, isStopRaised := false }, [])
  | _, _ => none

def Delivery.next (d : Delivery κ) : Phase κ :=
  if d.event.kind.isShutdown then .leaving else if d.isDraining then .draining else .selecting

/-- The dispatch thread does the next of what it has to do, unless it has a choice or waits for
    a consumer. -/
def proceed? (b : Bus κ) : Option (Bus κ × List (Entry κ)) :=
  match b.phase with
  | .selecting => none
  | .draining =>
    match b.queue with
    | e :: rest => some (b.begin true e rest)
    | [] => some ({ b with phase := .leaving }, [])
  | .delivering d =>
    match d.pending with
    | c :: cs =>
      some ({ b with phase := .handling { d with pending := cs } c }, [.told c d.event])
    | [] =>
      some ({ b with
        phase := d.next
        stats := { b.stats with dispatched := b.stats.dispatched + 1 } },
        [.dispatched d.event])
  | .handling _ _ => none
  | .leaving => some ({ b with phase := .stopped }, [])
  | .stopped => some ({ b with phase := .detached }, [])
  | .detached => some ({ b with phase := .released }, [])
  | .released => some ({ b with phase := .gone }, [])
  | .gone => none

/-- The consumer at work ends.  Whatever its end, the delivery goes on. -/
def endWork? (b : Bus κ) (o : Ending) : Option (Bus κ × List (Entry κ)) :=
  match b.phase with
  | .handling d c =>
    if (b.calls.get? .dispatch).isNone then
      some ({ b with
        phase := .delivering d
        stats := { b.stats with
          consumerFailures := b.stats.consumerFailures + if o.isFailure then 1 else 0 } },
        [.ended c d.event o])
    else none
  | _ => none

/-! ## Steps and runs -/

def step? (b : Bus κ) : Label κ → Option (Bus κ × List (Entry κ))
  | .publish t e => b.publish? t e
  | .offer t => b.offer? t
  | .subscribe t f c => b.subscribe? t f c
  | .close t => b.close? t
  | .claim t => b.claim? t
  | .finish t => b.finish? t
  | .takeEvent => b.takeEvent?
  | .takeStop => b.takeStop?
  | .proceed => b.proceed?
  | .endWork o => b.endWork? o

/-- Carries out a list of steps, if they can be made, and reports them. -/
def run? (b : Bus κ) : List (Label κ) → Option (Bus κ × List (Entry κ))
  | [] => some (b, [])
  | l :: ls => do
    let (b, es) ← b.step? l
    let (b, fs) ← b.run? ls
    return (b, es ++ fs)

/-- A bus that can come out of a run from a fresh one, with the report of that run. -/
def Reachable (b : Bus κ) (es : List (Entry κ)) : Prop :=
  ∃ (n : Nat) (h : 0 < n) (ls : List (Label κ)),
    run? { capacity := n, capacity_pos := h } ls = some (b, es)

theorem run?_cons {b b₁ b₂ : Bus κ} {l : Label κ} {ls : List (Label κ)} {es fs : List (Entry κ)}
    (h₁ : b.step? l = some (b₁, es)) (h₂ : b₁.run? ls = some (b₂, fs)) :
    b.run? (l :: ls) = some (b₂, es ++ fs) := by
  simp [run?, h₁, h₂]

theorem run?_append {b b₁ b₂ : Bus κ} {ls ms : List (Label κ)} {es fs : List (Entry κ)}
    (h₁ : b.run? ls = some (b₁, es)) (h₂ : b₁.run? ms = some (b₂, fs)) :
    b.run? (ls ++ ms) = some (b₂, es ++ fs) := by
  induction ls generalizing b es with
  | nil =>
    simp only [run?, Option.some.injEq, Prod.mk.injEq] at h₁
    obtain ⟨rfl, rfl⟩ := h₁
    simpa using h₂
  | cons l ls ih =>
    simp only [run?, Option.bind_eq_bind, Option.bind_eq_some_iff, Prod.exists,
      Option.pure_def, Option.some.injEq, Prod.mk.injEq] at h₁
    obtain ⟨b', es', hs, b'', es'', hr, rfl, rfl⟩ := h₁
    rw [List.append_assoc]
    exact run?_cons hs (ih hr)

end PlatformCore.Bus
