/-
  The order in which the bus delivers.

  What came into the queue is what was dispatched, what is being dispatched, and what waits, in
  this order: nothing is lost, doubled or overtaken on the way, however the threads are mixed.

  * `Orderly` is the invariant, and `orderly_of_moves` says that every move keeps it;
  * `fifo_of_run`: the order of delivery after every run from a fresh bus.
-/
import PlatformCore.Proofs.Bus.History

namespace PlatformCore.Bus

variable {κ : Type}

/-! ## Where events are -/

/-- The event that is being dispatched. -/
def Phase.inFlight : Phase κ → List Event
  | delivering d | handling d _ => [d.event]
  | _ => []

/-- Whether the dispatch thread has not left the loop. -/
def Phase.isLooping : Phase κ → Bool
  | selecting | draining | delivering _ | handling _ _ => true
  | _ => false

/-- The event that a call has not yet disposed of. -/
def Call.pending : Call → List Event
  | publishing o => [o.event]
  | _ => []

/-- The event of a publish call of a thread that has not returned. -/
def pending (calls : Registry Thread Call) (t : Thread) : List Event :=
  ((calls.get? t).map Call.pending).getD []

variable {b b' : Bus κ} {l : Label κ} {es fs : List (Entry κ)} {t u : Thread} {c : Call}
  {calls : Registry Thread Call} {d : Delivery κ}

theorem pending_of_get? (h : calls.get? t = some c) : pending calls t = c.pending := by
  simp [pending, h]

theorem get?_of_mayCall (h : b.mayCall t = true) : b.calls.get? t = none := by
  simp only [mayCall, Bool.and_eq_true, Option.isNone_iff_eq_none] at h
  exact h.1

theorem pending_of_mayCall (h : b.mayCall t = true) : pending b.calls t = [] := by
  simp [pending, get?_of_mayCall h]

theorem pending_insert :
    pending (calls.insert u c) t = if t = u then c.pending else pending calls t := by
  simp only [pending, Registry.get?_insert]
  split <;> rfl

theorem pending_erase :
    pending (calls.erase u) t = if t = u then [] else pending calls t := by
  simp only [pending, Registry.get?_erase]
  split <;> rfl

theorem pending_insert_of_eq (h : pending calls u = c.pending) :
    pending (calls.insert u c) t = pending calls t := by
  rw [pending_insert]
  split
  · rename_i ht; rw [ht, h]
  · rfl

theorem inFlight_next : d.next.inFlight = [] := by
  simp only [Delivery.next]
  split
  · rfl
  · split <;> rfl

theorem isShutdown_of_isLooping_next (h : d.next.isLooping = true) :
    d.event.kind.isShutdown = false := by
  rcases hs : d.event.kind.isShutdown with _ | _
  · rfl
  · simp [Delivery.next, hs, Phase.isLooping] at h

/-! ## What one move does -/

theorem capacity_of_moves (h : Moves b l b' es) : b'.capacity = b.capacity := by
  cases h <;> rfl

theorem length_queue_of_moves (h : Moves b l b' es) (hb : b.queue.length ≤ b.capacity) :
    b'.queue.length ≤ b'.capacity := by
  cases h with
  | accept hc ha hq => simp only [List.length_append, List.length_singleton]; omega
  | takeEvent hp hq | drain hp hq =>
    simp only [begin, hq, List.length_cons] at hb ⊢
    omega
  | _ => exact hb

/-- What a move gets into the queue joins the events on their way at the end, and what it
    dispatches leaves them at the front. -/
theorem fifo_of_moves (h : Moves b l b' es) :
    b.phase.inFlight ++ b.queue ++ accepted es =
      dispatched es ++ (b'.phase.inFlight ++ b'.queue) := by
  cases h with
  | takeEvent hp hq | drain hp hq =>
    simp [begin, hp, hq, Phase.inFlight, accepted, accepts, dispatched]
  | complete hp hd =>
    simp only [hp, inFlight_next]
    simp [Phase.inFlight, accepted, accepts, dispatched]
  | tell hp _ | endWork hp _ | takeStop hp _ | leave hp _ | stop hp | detach hp | release hp
  | vanish hp => simp [hp, Phase.inFlight, accepted, accepts, dispatched]
  | stall => split <;> simp [accepted, accepts, dispatched]
  | _ => simp [accepted, accepts, dispatched]

/-- Nothing is refused while the dispatch thread holds on to the queue. -/
theorem refusals_of_moves (h : Moves b l b' es) (ha : b'.phase.isAttached = true) :
    refusals es = [] ∧ b.phase.isAttached = true := by
  cases h with
  | refuse _ hr => rw [hr] at ha; cases ha
  | detach | release | vanish => cases ha
  | takeEvent hp _ | takeStop hp _ | drain hp _ | leave hp _ | tell hp _ | complete hp _ | stop hp
  | endWork hp _ => exact ⟨rfl, by rw [hp]; rfl⟩
  | stall => exact ⟨by split <;> rfl, ha⟩
  | _ => exact ⟨rfl, ha⟩

/-- Events come into the queue only while the dispatch thread holds on to it. -/
theorem accepts_of_moves (h : Moves b l b' es) :
    accepts es = [] ∨ b.phase.isAttached = true := by
  cases h with
  | accept _ ha _ | stall _ ha _ => exact .inr ha
  | _ => exact .inl rfl

/-- A thread that is given an event gets it into the queue, has it refused, or still has it. -/
theorem given_of_moves (h : Moves b l b' es) (t : Thread) :
    pending b.calls t ++ ofThread t (offers es) =
      ofThread t (accepts es) ++ ofThread t (refusals es) ++ pending b'.calls t := by
  cases h with
  | @publish u e hm =>
    rw [pending_insert]
    by_cases ht : t = u
    · subst ht
      simp [pending_of_mayCall hm, offers, accepts, refusals, Call.pending]
    · simp [offers, accepts, refusals, ht, Ne.symm ht]
  | @accept u o hc _ _ | @refuse u o hc _ =>
    rw [pending_erase]
    by_cases ht : t = u
    · subst ht
      simp [pending_of_get? hc, offers, accepts, refusals, Call.pending]
    · simp [offers, accepts, refusals, ht, Ne.symm ht]
  | @stall u o hc _ _ =>
    have hu : pending b.calls u = [o.event] := pending_of_get? hc
    rw [pending_insert_of_eq hu]
    split <;> simp [offers, accepts, refusals]
  | @close u hm =>
    have hp : pending (if u = .dispatch then b.calls else b.calls.insert u .closing) t =
        pending b.calls t := by
      split
      · rfl
      · exact pending_insert_of_eq (pending_of_mayCall hm)
    simp [hp, offers, accepts, refusals]
  | claim hc =>
    rw [pending_insert_of_eq]
    · simp [offers, accepts, refusals]
    · rw [pending_of_get? hc]
      split <;> rfl
  | @finish u hasJoined hc _ =>
    have hu : pending b.calls u = [] := by
      rw [pending_of_get? hc]
      split <;> rfl
    rw [pending_erase]
    by_cases ht : t = u
    · subst ht
      simp [hu, offers, accepts, refusals]
    · simp [offers, accepts, refusals, ht]
  | _ => simp [offers, accepts, refusals, begin]

/-- Only a delivery that is complete is dispatched, and the dispatch thread does not return to the
    loop. -/
theorem dispatched_of_moves (h : Moves b l b' es) :
    (dispatched es = [] ∧ (b'.phase.isLooping = true → b.phase.isLooping = true)) ∨
      ∃ d, b.phase = .delivering d ∧ dispatched es = [d.event] ∧ b'.phase = d.next := by
  cases h with
  | complete hp _ => exact .inr ⟨_, hp, rfl, rfl⟩
  | stop | detach | release | vanish => exact .inl ⟨rfl, nofun⟩
  | takeEvent hp _ | takeStop hp _ | drain hp _ | leave hp _ | tell hp _ | endWork hp _ =>
    exact .inl ⟨rfl, fun _ => by rw [hp]; rfl⟩
  | stall => exact .inl ⟨by split <;> rfl, id⟩
  | _ => exact .inl ⟨rfl, id⟩

/-! ## What holds throughout -/

/-- What is kept of the report `es` of a run that led to the bus `b`. -/
structure Orderly (b : Bus κ) (es : List (Entry κ)) : Prop where
  bounded : b.queue.length ≤ b.capacity
  /-- Events leave the queue in the order in which they came, and none is missing or doubled. -/
  fifo : accepted es = dispatched es ++ b.phase.inFlight ++ b.queue
  willing : b.phase.isAttached = true → refusals es = []
  /-- Every thread disposes of its events in the order in which it published them. -/
  given : ∀ t, ofThread t (offers es) =
    ofThread t (accepts es) ++ ofThread t (refusals es) ++ pending b.calls t
  /-- Nothing was dispatched after an event that ends all delivery. -/
  sentinel : ∀ e ∈ (dispatched es).dropLast, e.kind.isShutdown = false
  looping : b.phase.isLooping = true → ∀ e ∈ dispatched es, e.kind.isShutdown = false

theorem orderly_fresh {n : Nat} (h : 0 < n) :
    Orderly ({ capacity := n, capacity_pos := h } : Bus κ) [] where
  bounded := Nat.zero_le n
  fifo := rfl
  willing _ := rfl
  given _ := rfl
  sentinel := nofun
  looping _ := nofun

theorem orderly_of_moves (hb : Orderly b es) (h : Moves b l b' fs) : Orderly b' (es ++ fs) where
  bounded := length_queue_of_moves h hb.bounded
  fifo := by
    rw [accepted_append, dispatched_append, hb.fifo]
    have := fifo_of_moves h
    simp only [List.append_assoc] at this ⊢
    rw [this]
  willing ha := by
    obtain ⟨hf, ha⟩ := refusals_of_moves h ha
    rw [refusals_append, hf, hb.willing ha, List.append_nil]
  given t := by
    have hg := given_of_moves h t
    rw [offers_append, ofThread_append, hb.given t, List.append_assoc, hg]
    rcases accepts_of_moves h with ha | ha
    · simp [ha]
    · simp [hb.willing ha]
  sentinel := by
    rcases dispatched_of_moves h with ⟨hd, -⟩ | ⟨d, hp, hd, -⟩
    · rw [dispatched_append, hd, List.append_nil]
      exact hb.sentinel
    · rw [dispatched_append, hd, List.dropLast_concat]
      exact hb.looping (by rw [hp]; rfl)
  looping hl := by
    rcases dispatched_of_moves h with ⟨hd, hi⟩ | ⟨d, hp, hd, hn⟩
    · rw [dispatched_append, hd, List.append_nil]
      exact hb.looping (hi hl)
    · rw [dispatched_append, hd]
      rw [hn] at hl
      intro e he
      rcases List.mem_append.1 he with he | he
      · exact hb.looping (by rw [hp]; rfl) e he
      · rw [List.mem_singleton.1 he]
        exact isShutdown_of_isLooping_next hl

theorem orderly_of_run {n : Nat} {b₀ : Bus κ} {ls : List (Label κ)} (h₀ : start n = .ok b₀)
    (h : b₀.run? ls = some (b, es)) : Orderly b es ∧ b.capacity = n := by
  obtain ⟨hn, rfl⟩ := start_eq_ok h₀
  refine run?_induction (P := fun b es => Orderly b es ∧ b.capacity = n) (r := [])
    ⟨orderly_fresh hn, rfl⟩ ?_ h
  rintro b l b' es fs ⟨hb, hc⟩ hm
  exact ⟨orderly_of_moves hb hm, (capacity_of_moves hm).trans hc⟩

/-! ## The order of delivery -/

/-- **First come, first served.**  After every run from a fresh bus the events that came into the
    queue are those that were dispatched, the one being dispatched, and those that wait, in this
    order; no more wait than there is room for.  The events that a thread published are those that
    it got into the queue, then those that were refused, then the one it still has, in the order in
    which it published them.  An event that ends all delivery is dispatched at most once and as the
    last, and nothing is dispatched after it, however the run goes on. -/
theorem fifo_of_run {n : Nat} {b₀ b : Bus κ} {ls : List (Label κ)} {es : List (Entry κ)}
    (h₀ : start n = .ok b₀) (h : b₀.run? ls = some (b, es)) :
    accepted es = dispatched es ++ b.phase.inFlight ++ b.queue ∧
    b.queue.length ≤ n ∧
    (∀ t, ofThread t (offers es) =
      ofThread t (accepts es) ++ ofThread t (refusals es) ++ pending b.calls t) ∧
    (∀ e ∈ (dispatched es).dropLast, e.kind.isShutdown = false) ∧
    ∀ e ∈ dispatched es, e.kind.isShutdown = true →
      ∀ ms b' fs, b.run? ms = some (b', fs) → dispatched fs = [] := by
  obtain ⟨hb, hn⟩ := orderly_of_run h₀ h
  refine ⟨hb.fifo, hn ▸ hb.bounded, hb.given, hb.sentinel, ?_⟩
  intro e he hs ms b' fs hr
  -- an event after `e` would make `e` one of those before the last
  have hlast := (orderly_of_run h₀ (run?_append h hr)).1.sentinel
  refine Classical.byContradiction fun hne => ?_
  rw [dispatched_append, List.dropLast_append_of_ne_nil hne] at hlast
  have := hlast e (List.mem_append_left _ he)
  rw [hs] at this
  cases this

/-- A run in which two threads meet a full queue, and the event of one of them ends all
    delivery. -/
def crowdedRun : List (Label Unit) :=
  let first : Event := { originator := none, kind := ⟨"a"⟩, description := "" }
  let last : Event := .platformShutdown ⟨"b"⟩
  [.subscribe (.caller 0) ⟨none, none⟩ (), .publish (.caller 0) first, .publish (.caller 1) last,
    .offer (.caller 0), .offer (.caller 1), .takeEvent, .offer (.caller 1), .proceed, .endWork .ok,
    .proceed, .takeEvent, .publish (.caller 0) first, .offer (.caller 0), .proceed, .endWork .ok,
    .proceed]

theorem fifo_of_run_crowded :
    ∃ b₀ b es, start 1 = .ok b₀ ∧ b₀.run? crowdedRun = some (b, es) ∧
      (accepted es).length = 3 ∧ (dispatched es).length = 2 ∧
      accepted es = dispatched es ++ b.phase.inFlight ++ b.queue :=
  ⟨_, _, _, rfl, rfl, rfl, rfl, (@fifo_of_run Unit 1 _ _ crowdedRun _ rfl rfl).1⟩

end PlatformCore.Bus
