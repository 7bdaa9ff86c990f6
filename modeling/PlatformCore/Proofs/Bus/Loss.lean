/-
  What becomes of the events that the bus was given, once its dispatch thread has ended.

  An event is dispatched, refused, or left in the queue for good.  Events are left there behind one
  that ends all delivery, and only one other way: the dispatch thread has looked at the queue for
  the last time, but not yet let go of it, and a publish call gets its event in between.

  * `belated` are the events that a run gets into the queue after the last look;
  * `accounted_of_run`: what becomes of every event, and that nothing is lost without an event that
    ends all delivery exactly if no event is belated;
  * `not_accounted_of_belated`: a run in which a belated event is lost.
-/
import PlatformCore.Proofs.Bus.Order

namespace PlatformCore.Bus

variable {κ : Type}

/-- The events that a run gets into the queue after the dispatch thread has left the loop. -/
def belated (b : Bus κ) : List (Label κ) → List Event
  | [] => []
  | l :: ls =>
    match b.step? l with
    | none => []
    | some (b', es) => (if b.phase.isLooping then [] else accepted es) ++ b'.belated ls

variable {b b' : Bus κ} {l : Label κ} {ls : List (Label κ)} {es fs : List (Entry κ)}
  {d : Delivery κ}

/-! ## After the loop -/

theorem isShutdown_of_not_isLooping_next (h : d.next.isLooping = false) :
    d.event.kind.isShutdown = true := by
  rcases hs : d.event.kind.isShutdown with _ | _
  · rcases hd : d.isDraining with _ | _ <;> simp [Delivery.next, hs, hd, Phase.isLooping] at h
  · rfl

/-- The dispatch thread leaves the loop when it has taken the stop signal and finds the queue empty,
    or after an event that ends all delivery. -/
theorem left_of_moves (h : Moves b l b' es) (hb : b.phase.isLooping = true)
    (hb' : b'.phase.isLooping = false) :
    (b.phase = .draining ∧ b'.queue = []) ∨ ∃ e ∈ dispatched es, e.kind.isShutdown = true := by
  cases h with
  | leave hp hq => exact .inl ⟨hp, hq⟩
  | @complete d _ _ =>
    exact .inr ⟨d.event, List.mem_singleton_self _, isShutdown_of_not_isLooping_next hb'⟩
  | stop hp | detach hp | release hp | vanish hp => rw [hp] at hb; cases hb
  | takeEvent | takeStop | drain | tell | endWork => cases hb'
  | _ => rw [hb] at hb'; cases hb'

/-- After the loop nothing leaves the queue. -/
theorem queue_of_moves (h : Moves b l b' es) (hb : b.phase.isLooping = false) :
    b'.queue = b.queue ++ accepted es ∧ b'.phase.isLooping = false := by
  cases h with
  | accept => exact ⟨rfl, hb⟩
  | stall => exact ⟨by split <;> simp [accepted, accepts], hb⟩
  | takeEvent hp _ | takeStop hp _ | drain hp _ | leave hp _ | tell hp _ | complete hp _
  | endWork hp _ => rw [hp] at hb; cases hb
  | stop | detach | release | vanish => exact ⟨(List.append_nil _).symm, rfl⟩
  | _ => exact ⟨(List.append_nil _).symm, hb⟩

/-- Unless an event ended all delivery, the events `late` are those that wait after the loop. -/
structure LeavesBehind (b : Bus κ) (es : List (Entry κ)) (late : List Event) : Prop where
  none_looping : b.phase.isLooping = true → late = []
  /-- After the loop they are all that waits. -/
  queue_eq : b.phase.isLooping = false → (∀ e ∈ dispatched es, e.kind.isShutdown = false) →
    b.queue = late

theorem leavesBehind_fresh {n : Nat} (h : 0 < n) :
    LeavesBehind ({ capacity := n, capacity_pos := h } : Bus κ) [] [] where
  none_looping _ := rfl
  queue_eq _ _ := rfl

theorem leavesBehind_of_moves {late : List Event} (hb : LeavesBehind b es late)
    (h : Moves b l b' fs) :
    LeavesBehind b' (es ++ fs) (late ++ if b.phase.isLooping then [] else accepted fs) := by
  rcases hl : b.phase.isLooping with _ | _
  · obtain ⟨hq, hl'⟩ := queue_of_moves h hl
    refine ⟨fun h' => ?_, fun _ hs => ?_⟩
    · rw [hl'] at h'; cases h'
    · rw [hq, hb.queue_eq hl fun e he => hs e (by simp [he])]
      rfl
  · have hlate := hb.none_looping hl
    subst hlate
    refine ⟨fun _ => rfl, fun hl' hs => ?_⟩
    rcases left_of_moves h hl hl' with ⟨-, hq⟩ | ⟨e, he, hd⟩
    · exact hq
    · rw [hs e (by simp [he])] at hd
      cases hd

theorem leavesBehind_of_run {late : List Event} (hb : LeavesBehind b es late)
    (h : b.run? ls = some (b', fs)) : LeavesBehind b' (es ++ fs) (late ++ b.belated ls) := by
  induction ls generalizing b es late fs with
  | nil =>
    cases h
    simpa [belated] using hb
  | cons l ls ih =>
    obtain ⟨b₁, es₁, es₂, hstep, hr, rfl⟩ := run?_cons_eq_some h
    simp only [belated, hstep]
    rw [← List.append_assoc, ← List.append_assoc]
    exact ih (leavesBehind_of_moves hb (moves_of_step? hstep)) hr

/-! ## Counting -/

/-- Every event that comes into the queue, comes too late for it, or is dispatched, is counted. -/
theorem stats_of_moves (h : Moves b l b' es) :
    b'.stats.published = b.stats.published + (accepts es).length ∧
      b'.stats.dropped = b.stats.dropped + (refusals es).length ∧
      b'.stats.dispatched = b.stats.dispatched + (dispatched es).length := by
  cases h with
  | stall => split <;> exact ⟨rfl, rfl, rfl⟩
  | _ => exact ⟨rfl, rfl, rfl⟩

theorem stats_between (h : b.run? ls = some (b', es)) :
    b'.stats.published = b.stats.published + (accepts es).length ∧
      b'.stats.dropped = b.stats.dropped + (refusals es).length ∧
      b'.stats.dispatched = b.stats.dispatched + (dispatched es).length := by
  refine run?_induction (P := fun b' es =>
    b'.stats.published = b.stats.published + (accepts es).length ∧
    b'.stats.dropped = b.stats.dropped + (refusals es).length ∧
    b'.stats.dispatched = b.stats.dispatched + (dispatched es).length) (r := [])
    ⟨rfl, rfl, rfl⟩ ?_ h
  rintro b₁ l b₂ es fs ⟨hp, hd, ht⟩ hm
  obtain ⟨hp', hd', ht'⟩ := stats_of_moves hm
  simp [hp, hd, ht, hp', hd', ht', Nat.add_assoc]

theorem stats_of_run {n : Nat} {b₀ : Bus κ} (h₀ : start n = .ok b₀)
    (h : b₀.run? ls = some (b, es)) :
    b.stats.published = (accepts es).length ∧ b.stats.dropped = (refusals es).length ∧
      b.stats.dispatched = (dispatched es).length := by
  obtain ⟨hn, rfl⟩ := start_eq_ok h₀
  simpa using stats_between h

/-! ## Account -/

/-- **What becomes of every event.**  When the dispatch thread has ended and no publish call is
    under way, the events of each thread are those that came into the queue and those that were
    refused; the former were dispatched, or are left in the queue; and all are counted.  Nothing is
    left there without an event that ends all delivery exactly if no event was belated. -/
theorem accounted_of_run {n : Nat} {b₀ b : Bus κ} {ls : List (Label κ)} {es : List (Entry κ)}
    (h₀ : start n = .ok b₀) (h : b₀.run? ls = some (b, es)) (hg : b.phase.isGone = true)
    (hc : ∀ t, pending b.calls t = []) :
    (∀ t, ofThread t (offers es) = ofThread t (accepts es) ++ ofThread t (refusals es)) ∧
    accepted es = dispatched es ++ b.queue ∧
    b.stats.published = (accepts es).length ∧ b.stats.dropped = (refusals es).length ∧
    ((b.queue = [] ∨ ∃ e ∈ dispatched es, e.kind.isShutdown = true) ↔
      (b₀.belated ls = [] ∨ ∃ e ∈ dispatched es, e.kind.isShutdown = true)) := by
  obtain ⟨hb, -⟩ := orderly_of_run h₀ h
  obtain ⟨hp, hd, -⟩ := stats_of_run h₀ h
  obtain ⟨hn, rfl⟩ := start_eq_ok h₀
  have hgone : b.phase = .gone := by
    rcases hph : b.phase with _ | _ | _ | _ | _ | _ | _ | _ | _ <;>
      simp [hph, Phase.isGone] at hg ⊢
  have hlate := leavesBehind_of_run (leavesBehind_fresh hn) h
  have hfifo := hb.fifo
  simp only [hgone, Phase.inFlight, List.append_nil] at hfifo
  refine ⟨fun t => ?_, hfifo, hp, hd, ?_⟩
  · rw [hb.given t, hc t, List.append_nil]
  · by_cases hs : ∃ e ∈ dispatched es, e.kind.isShutdown = true
    · simp [hs]
    · have hq : b.queue = _ := hlate.queue_eq (by rw [hgone]; rfl) fun e he => by
        rcases hk : e.kind.isShutdown with _ | _
        · rfl
        · exact absurd ⟨e, he, hk⟩ hs
      rw [hq, List.nil_append]

/-- An event that says nothing. -/
def blankEvent : Event := { originator := none, kind := ⟨""⟩, description := "" }

/-- A run in which a publish call offers its event after the last look at the queue. -/
def belatedRun : List (Label Unit) :=
  [.publish (.caller 1) blankEvent, .close (.caller 0), .takeStop, .proceed, .offer (.caller 1),
    .proceed, .proceed, .proceed, .proceed, .claim (.caller 0), .finish (.caller 0)]

theorem accounted_of_run_belated :
    ∃ b₀ b es, start 1 = .ok b₀ ∧ b₀.run? belatedRun = some (b, es) ∧ b.phase.isGone = true ∧
      (∀ t, pending b.calls t = []) ∧ accepted es = dispatched es ++ b.queue ∧
      b₀.belated belatedRun = [blankEvent] :=
  ⟨_, _, _, rfl, rfl, rfl, fun _ => rfl,
    (@accounted_of_run Unit 1 _ _ belatedRun _ rfl rfl rfl fun _ => rfl).2.1, rfl⟩

/-- **A belated event is lost**: it is counted as published, but neither dispatched nor refused,
    and no event has ended all delivery. -/
theorem not_accounted_of_belated :
    ¬ ∀ (n : Nat) (b₀ b : Bus Unit) (ls : List (Label Unit)) (es : List (Entry Unit)),
      start n = .ok b₀ → b₀.run? ls = some (b, es) → b.phase.isGone = true →
      (∀ t, pending b.calls t = []) → ∀ t e, (t, e) ∈ offers es →
        e ∈ dispatched es ∨ (t, e) ∈ refusals es ∨
          ∃ s ∈ dispatched es, s.kind.isShutdown = true := by
  intro h
  have hlost := h 1 _ _ belatedRun _ rfl rfl rfl (fun _ => rfl) (.caller 1) blankEvent
    (List.mem_singleton_self _)
  rcases hlost with he | he | ⟨s, hs, -⟩
  · cases he
  · cases he
  · cases hs

end PlatformCore.Bus
