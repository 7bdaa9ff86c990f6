/-
  The event bus: a bounded queue, a routing table, and one thread that dispatches.

  Any thread may publish events, register consumers and close the bus.  Events wait in the
  queue until the dispatch thread takes them, one at a time, and tells the consumers that the
  table names at that moment.  A publish call offers its event again and again while the queue
  is full, and gives up only when nobody will ever take it.

  * `Bus` is the state of the bus between two steps of any thread;
  * `Phase` is what the dispatch thread is about, and `Call` what another thread waits for;
  * `Bus.answer` is what the queue answers to an offer, `answer_eq_accepted_iff` and its partners
    say when it answers what, and `Bus.receive` is what a publish call makes of an answer.
-/
import PlatformCore.Registry
import PlatformCore.Routing.Table

namespace PlatformCore

namespace Bus

/-! ## Threads and their calls -/

/-- A thread: the one that dispatches, or one of those that use the bus. -/
inductive Thread where
  | dispatch
  | caller (n : Nat)
deriving DecidableEq, Repr

/-- An event that is offered to the queue. -/
structure Offer where
  event : Event
  hasWaited : Bool := false
deriving DecidableEq, Repr

/-- What the queue answers to an offer: that it took the event, that it stayed full for as long as
    one try lasts, or that nobody takes events any more. -/
inductive Answer where
  | accepted
  | timedOut
  | disconnected
deriving DecidableEq, Repr

/-- A call that has not returned.  A close call that has raised the stop signal waits for the end of
    the dispatch thread (`joining`) or, if another one does, until that thread has let go of all it
    held (`awaiting`). -/
inductive Call where
  | publishing (o : Offer)
  | closing
  | joining
  | awaiting
deriving DecidableEq, Repr

/-! ## The dispatch thread -/

/-- How the work of a consumer on an event ended. -/
inductive Ending where
  | ok
  | failed (text : String)
  | panicked (text : String)
deriving DecidableEq, Repr

def Ending.isFailure : Ending → Bool
  | ok => false
  | _ => true

/-- An event on its way to its consumers, of whom those in `pending` are still to be told. -/
structure Delivery (κ : Type) where
  event : Event
  isDraining : Bool
  pending : List κ
deriving Repr

/-- What the dispatch thread is about.  When it has left the loop it declares that the bus no longer
    runs, lets go of the queue and then of all it held, and ends. -/
inductive Phase (κ : Type) where
  | selecting
  | draining
  | delivering (d : Delivery κ)
  | handling (d : Delivery κ) (c : κ)
  | leaving
  | stopped
  | detached
  | released
  | gone
deriving Repr

namespace Phase

variable {κ : Type}

def isRunning : Phase κ → Bool
  | stopped | detached | released | gone => false
  | _ => true

/-- Whether the dispatch thread holds on to the queue. -/
def isAttached : Phase κ → Bool
  | detached | released | gone => false
  | _ => true

/-- Whether the dispatch thread has let go of all it held. -/
def isReleased : Phase κ → Bool
  | released | gone => true
  | _ => false

def isGone : Phase κ → Bool
  | gone => true
  | _ => false

def isHandling : Phase κ → Bool
  | handling _ _ => true
  | _ => false

end Phase

/-! ## The state -/

/-- What the bus counts: the events that came into the queue, those all of whose consumers were
    told, the bad ends of their work, and the events that came too late. -/
structure Stats where
  published : Nat := 0
  dispatched : Nat := 0
  consumerFailures : Nat := 0
  dropped : Nat := 0
deriving DecidableEq, Repr

inductive StartError where
  | zeroCapacity
deriving DecidableEq, Repr

def StartError.message : StartError → String
  | zeroCapacity => "Event queue capacity must be greater than zero"

end Bus

/-- An event bus with consumers of type `κ`. -/
structure Bus (κ : Type) where
  capacity : Nat
  capacity_pos : 0 < capacity
  queue : List Event := []
  isStopRaised : Bool := false
  /-- Whether no close call has taken it upon itself to wait for the dispatch thread. -/
  hasHandle : Bool := true
  phase : Bus.Phase κ := .selecting
  calls : Registry Bus.Thread Bus.Call := ∅
  table : Table κ := .empty
  stats : Bus.Stats := {}

namespace Bus

variable {κ : Type}

def start (capacity : Nat) : Except StartError (Bus κ) :=
  if h : 0 < capacity then .ok { capacity := capacity, capacity_pos := h }
  else .error .zeroCapacity

def isRunning (b : Bus κ) : Bool := b.phase.isRunning

def isFull (b : Bus κ) : Bool := b.capacity ≤ b.queue.length

/-- Whether a thread may make a call: it has none that has not returned, and the dispatch
    thread only while a consumer is at work. -/
def mayCall (b : Bus κ) (t : Thread) : Bool :=
  (b.calls.get? t).isNone && (t ≠ .dispatch || b.phase.isHandling)

/-! ## Offers -/

/-- What is reported of a run of the bus. -/
inductive Entry (κ : Type) where
  | offered (t : Thread) (e : Event)
  | accepted (t : Thread) (e : Event)
  | stalled (t : Thread) (e : Event)
  | refused (t : Thread) (e : Event)
  | subscribed (t : Thread) (f : Filter) (c : κ)
  | stopRaised (t : Thread)
  /-- The close call of a thread returned.  The flag tells whether it waited for the end of the
      dispatch thread. -/
  | closed (t : Thread) (hasJoined : Bool)
  | taken (e : Event)
  | told (c : κ) (e : Event)
  | ended (c : κ) (e : Event) (o : Ending)
  | dispatched (e : Event)
deriving Repr

def answer (b : Bus κ) : Answer :=
  if !b.phase.isAttached then .disconnected
  else if b.isFull then .timedOut
  else .accepted

theorem answer_eq_accepted_iff {b : Bus κ} :
    b.answer = .accepted ↔ b.phase.isAttached = true ∧ b.queue.length < b.capacity := by
  rcases ha : b.phase.isAttached with _ | _ <;> simp [answer, ha, isFull]

theorem answer_eq_timedOut_iff {b : Bus κ} :
    b.answer = .timedOut ↔ b.phase.isAttached = true ∧ b.capacity ≤ b.queue.length := by
  rcases ha : b.phase.isAttached with _ | _ <;> simp [answer, ha, isFull]

theorem answer_eq_disconnected_iff {b : Bus κ} :
    b.answer = .disconnected ↔ b.phase.isAttached = false := by
  rcases ha : b.phase.isAttached with _ | _ <;> simp [answer, ha]
  split <;> simp

/-- What the publish call of a thread makes of an answer.  As long as the queue is full it
    keeps its event, and says so once; else it returns. -/
def receive (b : Bus κ) (t : Thread) (o : Offer) : Answer → Bus κ × List (Entry κ)
  | .accepted =>
    ({ b with
      queue := b.queue ++ [o.event]
      calls := b.calls.erase t
      stats := { b.stats with published := b.stats.published + 1 } }, [.accepted t o.event])
  | .timedOut =>
    ({ b with calls := b.calls.insert t (.publishing { o with hasWaited := true }) },
      if o.hasWaited then [] else [.stalled t o.event])
  | .disconnected =>
    ({ b with
      calls := b.calls.erase t
      stats := { b.stats with dropped := b.stats.dropped + 1 } }, [.refused t o.event])

end Bus

end PlatformCore
