/-
  What is delivered when the bus is closed.

  The stop signal travels apart from the events and may overtake any number of them, but once it is
  taken the dispatch thread goes on until it finds the queue empty.  So all that was in the queue
  when the signal was raised is delivered, unless an event ends all delivery before.

  * `throughShutdown` cuts a list of events off behind the first that ends all delivery, and
    `beforeStop` a report before the first stop signal;
  * `Closing` is the invariant, and `closing_of_moves` says that every move keeps it;
  * `exists_run_to_stop`: the run up to the first stop signal is itself a run;
  * `delivered_of_run`: what has been delivered once the dispatch thread has left the loop;
  * `dispatched_of_commands`: if one thread alone publishes and then closes, what is delivered
    depends on the events only, and not on the schedule.
-/
import PlatformCore.Proofs.Bus.Loss

namespace PlatformCore.Bus

variable {κ : Type}

/-! ## Cuts -/

/-- The events up to the first that ends all delivery, with this one. -/
def throughShutdown : List Event → List Event
  | [] => []
  | e :: l => if e.kind.isShutdown then [e] else e :: throughShutdown l

theorem throughShutdown_eq_self {l : List Event} (h : ∀ e ∈ l, e.kind.isShutdown = false) :
    throughShutdown l = l := by
  induction l with
  | nil => rfl
  | cons e l ih =>
    obtain ⟨he, hl⟩ := List.forall_mem_cons.1 h
    rw [throughShutdown, if_neg (by simp [he]), ih hl]

/-- What stands behind the first event that ends all delivery does not matter. -/
theorem throughShutdown_append {l m : List Event} (h : ∃ e ∈ l, e.kind.isShutdown = true) :
    throughShutdown (l ++ m) = throughShutdown l := by
  induction l with
  | nil => simp at h
  | cons e l ih =>
    rw [List.cons_append, throughShutdown, throughShutdown]
    split
    · rfl
    · rename_i he
      obtain ⟨x, hx, hs⟩ := h
      rcases List.mem_cons.1 hx with rfl | hx
      · exact absurd hs he
      · rw [ih ⟨x, hx, hs⟩]

theorem throughShutdown_of_dropLast {l : List Event}
    (h : ∀ e ∈ l.dropLast, e.kind.isShutdown = false) : throughShutdown l = l := by
  induction l with
  | nil => rfl
  | cons e l ih =>
    rcases l with _ | ⟨x, l⟩
    · rw [throughShutdown]
      split <;> rfl
    · obtain ⟨he, hl⟩ := List.forall_mem_cons.1 h
      rw [throughShutdown, if_neg (by simp [he]), ih hl]

def Entry.isStop : Entry κ → Bool
  | stopRaised _ => true
  | _ => false

/-- The part of a report before the first stop signal. -/
def beforeStop (es : List (Entry κ)) : List (Entry κ) := es.takeWhile fun x => !x.isStop

variable {b b' b₀ : Bus κ} {l : Label κ} {ls : List (Label κ)} {es fs : List (Entry κ)}
  {t : Thread} {e : Event} {d : Delivery κ}

theorem beforeStop_prefix : beforeStop es <+: es := List.takeWhile_prefix _

theorem any_isStop_beforeStop : (beforeStop es).any Entry.isStop = false := by
  simp only [List.any_eq_false, Bool.not_eq_true]
  intro x hx
  simpa using List.all_eq_true.1 (List.all_takeWhile (p := fun x : Entry κ => !x.isStop)) x hx

theorem beforeStop_append_of_any (h : es.any Entry.isStop = true) :
    beforeStop (es ++ fs) = beforeStop es := by
  induction es with
  | nil => simp at h
  | cons x es ih =>
    rcases hx : x.isStop with _ | _
    · rw [List.any_cons, hx, Bool.false_or] at h
      simp only [beforeStop, List.cons_append, List.takeWhile_cons, hx, Bool.not_false, if_true]
      exact congrArg (x :: ·) (ih h)
    · simp [beforeStop, hx]

theorem beforeStop_append_of_not_any (h : es.any Entry.isStop = false) :
    beforeStop (es ++ fs) = es ++ beforeStop fs := by
  rw [beforeStop, List.takeWhile_append_of_pos]
  · rfl
  · intro x hx
    simpa using List.any_eq_false.1 h x hx

/-! ## The stop signal -/

/-- Whether the dispatch thread works off the queue after the stop signal. -/
def Phase.isDraining : Phase κ → Bool
  | draining => true
  | delivering d | handling d _ => d.isDraining
  | _ => false

theorem isDraining_of_isDraining_next (h : d.next.isDraining = true) : d.isDraining = true := by
  simp only [Delivery.next] at h
  split at h
  · cases h
  · split at h
    · assumption
    · cases h

theorem isStopRaised_of_moves (h : Moves b l b' es) (hb : b'.isStopRaised = true) :
    b.isStopRaised = true ∨ es.any Entry.isStop = true := by
  cases h with
  | close => exact .inr rfl
  | takeStop => cases hb
  | _ => exact .inl hb

theorem isDraining_of_moves (h : Moves b l b' es) (hb : b'.phase.isDraining = true) :
    b.phase.isDraining = true ∨ b.isStopRaised = true := by
  cases h with
  | takeEvent | leave | stop | detach | release | vanish => cases hb
  | takeStop _ hs => exact .inr hs
  | drain hp _ => exact .inl (by rw [hp]; rfl)
  | tell hp _ | endWork hp _ => exact .inl (by rw [hp]; exact hb)
  | complete hp _ => exact .inl (by rw [hp]; exact isDraining_of_isDraining_next hb)
  | _ => exact .inl hb

theorem eq_stopRaised_of_moves (h : Moves b l b' es) (hs : es.any Entry.isStop = true) :
    ∃ t, es = [.stopRaised t] ∧ b.mayCall t = true := by
  cases h with
  | close hm => exact ⟨_, rfl, hm⟩
  | stall => split at hs <;> cases hs
  | _ => cases hs

/-- The run up to the first stop signal is a run, and leaves a bus on which close may be called. -/
theorem exists_run_to_stop (h : b.run? ls = some (b', es)) (hs : es.any Entry.isStop = true) :
    ∃ ms b₁ t fs, b.run? ms = some (b₁, beforeStop es) ∧ b₁.mayCall t = true ∧
      es = beforeStop es ++ .stopRaised t :: fs := by
  induction ls generalizing b es with
  | nil =>
    cases h
    cases hs
  | cons l ls ih =>
    obtain ⟨b₁, es₁, es₂, hstep, hr, rfl⟩ := run?_cons_eq_some h
    rcases h₁ : es₁.any Entry.isStop with _ | _
    · rw [List.any_append, h₁, Bool.false_or] at hs
      obtain ⟨ms, b₂, t, fs, hm, ht, he⟩ := ih hr hs
      rw [beforeStop_append_of_not_any h₁]
      exact ⟨l :: ms, b₂, t, fs, run?_cons hstep hm, ht, by rw [List.append_assoc, ← he]⟩
    · obtain ⟨t, rfl, ht⟩ := eq_stopRaised_of_moves (moves_of_step? hstep) h₁
      exact ⟨[], b, t, es₂, rfl, ht, rfl⟩

/-! ## What holds throughout -/

theorem inFlight_of_not_isLooping {p : Phase κ} (h : p.isLooping = false) : p.inFlight = [] := by
  cases p <;> first | rfl | cases h

theorem dispatched_of_not_isLooping (h : Moves b l b' es) (hb : b.phase.isLooping = false) :
    dispatched es = [] := by
  rcases dispatched_of_moves h with ⟨hd, -⟩ | ⟨d, hp, -⟩
  · exact hd
  · rw [hp] at hb
    cases hb

/-- How the report `es` of a run that led to the bus `b` tells of its closing. -/
structure Closing (b : Bus κ) (es : List (Entry κ)) : Prop where
  raised : b.isStopRaised = true → es.any Entry.isStop = true
  draining : b.phase.isDraining = true → es.any Entry.isStop = true
  /-- After the loop, an event has ended all delivery, or all that came before the signal was
      dispatched. -/
  left : b.phase.isLooping = false → (∃ e ∈ dispatched es, e.kind.isShutdown = true) ∨
    es.any Entry.isStop = true ∧ accepted (beforeStop es) <+: dispatched es

theorem closing_fresh {n : Nat} (h : 0 < n) :
    Closing ({ capacity := n, capacity_pos := h } : Bus κ) [] := ⟨nofun, nofun, nofun⟩

theorem accepted_prefix {pre : List (Entry κ)} (h : pre <+: es) : accepted pre <+: accepted es := by
  obtain ⟨fs, rfl⟩ := h
  exact ⟨accepted fs, accepted_append.symm⟩

theorem closing_of_moves (ho : Orderly b es) (hb : Closing b es) (h : Moves b l b' fs) :
    Closing b' (es ++ fs) where
  raised hr := by
    rw [List.any_append, Bool.or_eq_true]
    exact (isStopRaised_of_moves h hr).imp_left hb.raised
  draining hd := by
    rw [List.any_append, Bool.or_eq_true]
    exact .inl ((isDraining_of_moves h hd).elim hb.draining hb.raised)
  left hl := by
    rcases hl' : b.phase.isLooping with _ | _
    · rw [dispatched_append, dispatched_of_not_isLooping h hl', List.append_nil]
      refine (hb.left hl').imp_right fun ⟨hs, hp⟩ => ?_
      rw [List.any_append, hs, beforeStop_append_of_any hs]
      exact ⟨rfl, hp⟩
    · rcases left_of_moves h hl' hl with ⟨hp, hq⟩ | ⟨e, he, hs⟩
      · refine .inr ⟨?_, ?_⟩
        · rw [List.any_append, hb.draining (by rw [hp]; rfl), Bool.true_or]
        · -- nothing waits and nothing is on its way, so all that ever came was dispatched
          have hf := (orderly_of_moves ho h).fifo
          rw [inFlight_of_not_isLooping hl, hq, List.append_nil, List.append_nil] at hf
          exact hf ▸ accepted_prefix beforeStop_prefix
      · exact .inl ⟨e, by simp [he], hs⟩

theorem closing_of_run {n : Nat} (h₀ : start n = .ok b₀) (h : b₀.run? ls = some (b, es)) :
    Closing b es := by
  obtain ⟨hn, rfl⟩ := start_eq_ok h₀
  refine (run?_induction (P := fun b es => Orderly b es ∧ Closing b es) (r := [])
    ⟨orderly_fresh hn, closing_fresh hn⟩ ?_ h).2
  rintro b l b' es fs ⟨ho, hc⟩ hm
  exact ⟨orderly_of_moves ho hm, closing_of_moves ho hc hm⟩

theorem Orderly.dispatched_isPrefix (h : Orderly b es) : dispatched es <+: accepted es :=
  ⟨b.phase.inFlight ++ b.queue, by rw [h.fifo, List.append_assoc]⟩

theorem Orderly.dispatched_eq (h : Orderly b es)
    (hs : ∃ e ∈ dispatched es, e.kind.isShutdown = true) :
    dispatched es = throughShutdown (accepted es) := by
  rw [h.fifo, List.append_assoc, throughShutdown_append hs, throughShutdown_of_dropLast h.sentinel]

/-! ## One thread alone -/

/-- What a thread tells the bus. -/
inductive Command where
  | publish (e : Event)
  | close

/-- The publish and close calls, each with its thread, in order. -/
def commands (es : List (Entry κ)) : List (Thread × Command) :=
  es.filterMap fun
    | .offered t e => some (t, .publish e)
    | .stopRaised t => some (t, .close)
    | _ => none

@[simp] theorem commands_append : commands (es ++ fs) = commands es ++ commands fs :=
  List.filterMap_append

def Command.offer? : Thread × Command → Option (Thread × Event)
  | (t, publish e) => some (t, e)
  | _ => none

theorem offers_eq_filterMap_commands : offers es = (commands es).filterMap Command.offer? := by
  rw [offers, commands, List.filterMap_filterMap]
  congr 1
  funext x
  cases x <;> rfl

theorem offers_of_commands_eq {evs : List Event} {cs : List (Thread × Command)}
    (h : commands es = evs.map (fun e => (t, .publish e)) ++ cs)
    (hc : ∀ c ∈ cs, c.2 = .close) : offers es = evs.map fun e => (t, e) := by
  have hn : cs.filterMap Command.offer? = [] :=
    List.filterMap_eq_nil_iff.2 fun ⟨u, c⟩ hm => by cases hc _ hm; rfl
  rw [offers_eq_filterMap_commands, h, List.filterMap_append, hn, List.append_nil,
    List.filterMap_map]
  exact congrFun (List.filterMap_eq_map (f := fun e => (t, e))) evs

theorem any_isStop_iff : es.any Entry.isStop = true ↔ ∃ c ∈ commands es, c.2 = .close := by
  simp only [List.any_eq_true, commands, List.mem_filterMap]
  constructor
  · rintro ⟨x, hx, hs⟩
    cases x with
    | stopRaised t => exact ⟨(t, .close), ⟨_, hx, rfl⟩, rfl⟩
    | _ => cases hs
  · rintro ⟨⟨t, c⟩, ⟨x, hx, hc⟩, rfl⟩
    cases x with
    | stopRaised t => exact ⟨_, hx, rfl⟩
    | _ => cases hc

theorem eq_of_append_cons_eq_concat {α : Type} {p : α → Prop} {k l m : List α} {x y : α}
    (h : k ++ x :: l = m ++ [y]) (hx : p x) (hm : ∀ z ∈ m, ¬ p z) : k = m ∧ x = y ∧ l = [] := by
  rcases List.append_eq_append_iff.1 h with ⟨a, rfl, ha⟩ | ⟨a, rfl, ha⟩
  · rcases a with _ | ⟨z, a⟩
    · cases ha
      exact ⟨(List.append_nil k).symm, rfl, rfl⟩
    · cases ha
      exact absurd hx (hm x (by simp))
  · rcases a with _ | ⟨z, a⟩
    · cases ha
      exact ⟨List.append_nil m, rfl, rfl⟩
    · rw [List.cons_append, List.cons.injEq, List.nil_eq_append_iff] at ha
      exact absurd ha.2.2 (List.cons_ne_nil _ _)

/-- Where one thread alone publishes, all that came into the queue is its own. -/
theorem Orderly.accepted_eq_ofThread (h : Orderly b es) (ht : ∀ p ∈ offers es, p.1 = t) :
    accepted es = ofThread t (accepts es) := by
  refine (ofThread_eq_map fun p hp => ?_).symm
  have ho : p.2 ∈ ofThread p.1 (offers es) := by
    rw [h.given p.1]
    exact List.mem_append_left _ (List.mem_append_left _ (mem_ofThread.2 hp))
  exact ht p (mem_ofThread.1 ho)

theorem isReleased_of_moves (h : Moves b l b' es) (hb : b.phase.isReleased = true) :
    b'.phase.isReleased = true := by
  cases h with
  | takeEvent hp _ | takeStop hp _ | drain hp _ | leave hp _ | tell hp _ | complete hp _ | stop hp
  | detach hp | endWork hp _ => rw [hp] at hb; cases hb
  | release | vanish => rfl
  | _ => exact hb

theorem isReleased_of_isGone {p : Phase κ} (h : p.isGone = true) : p.isReleased = true := by
  cases p with
  | gone => rfl
  | _ => cases h

/-- A close call that waits returns once the dispatch thread has let go of all it held. -/
theorem isReleased_of_closed {hasJoined : Bool} (h : Moves b l b' es)
    (hc : .closed t hasJoined ∈ es) : b.phase.isReleased = true := by
  cases h with
  | @finish _ j _ hp =>
    rcases j with _ | _
    · exact hp
    · exact isReleased_of_isGone hp
  | stall => split at hc <;> simp at hc
  | _ => simp at hc

theorem isReleased_of_run {hasJoined : Bool} (h : b₀.run? ls = some (b, es))
    (hc : .closed t hasJoined ∈ es) : b.phase.isReleased = true := by
  refine run?_induction (P := fun b es => .closed t hasJoined ∈ es → b.phase.isReleased = true)
    (r := []) nofun ?_ h hc
  intro b l b' es fs hb hm hc
  rcases List.mem_append.1 hc with hc | hc
  · exact isReleased_of_moves hm (hb hc)
  · exact isReleased_of_moves hm (isReleased_of_closed hm hc)

theorem not_isLooping_of_isReleased {p : Phase κ} (h : p.isReleased = true) :
    p.isLooping = false := by
  cases p <;> first | rfl | cases h

theorem isAttached_of_isLooping {p : Phase κ} (h : p.isLooping = true) : p.isAttached = true := by
  cases p <;> first | rfl | cases h

/-! ## What is delivered -/

/-- Once the dispatch thread has left the loop, an event has ended all delivery and was the last, or
    all that came into the queue before the stop signal was delivered. -/
theorem delivered_of_left {n : Nat} (h₀ : start n = .ok b₀) (h : b₀.run? ls = some (b, es))
    (hl : b.phase.isLooping = false) :
    ((∃ e ∈ dispatched es, e.kind.isShutdown = true) ∧
        dispatched es = throughShutdown (accepted es)) ∨
      (∀ e ∈ dispatched es, e.kind.isShutdown = false) ∧ es.any Entry.isStop = true ∧
        accepted (beforeStop es) <+: dispatched es ∧ dispatched es <+: accepted es := by
  obtain ⟨ho, -⟩ := orderly_of_run h₀ h
  by_cases hs : ∃ e ∈ dispatched es, e.kind.isShutdown = true
  · exact .inl ⟨hs, ho.dispatched_eq hs⟩
  · obtain ⟨ha, hp⟩ := ((closing_of_run h₀ h).left hl).resolve_left hs
    exact .inr ⟨fun e he => Bool.eq_false_iff.2 fun h => hs ⟨e, he, h⟩, ha, hp,
      ho.dispatched_isPrefix⟩

/-- If one thread alone published, and has no event on its hands when the stop signal is raised, all
    that it published came into the queue before, or an event ends all delivery. -/
theorem accepted_beforeStop_of_pending {n : Nat} {ms : List (Label κ)} {b₁ : Bus κ}
    {evs : List Event} (h₀ : start n = .ok b₀) (hm : b₀.run? ms = some (b₁, beforeStop es))
    (hof : offers (beforeStop es) = evs.map fun e => (t, e)) (hp : pending b₁.calls t = []) :
    accepted (beforeStop es) = evs ∨ ∃ e ∈ dispatched es, e.kind.isShutdown = true := by
  obtain ⟨ho, -⟩ := orderly_of_run h₀ hm
  rcases hl : b₁.phase.isLooping with _ | _
  · rcases (closing_of_run h₀ hm).left hl with ⟨e, hd, hk⟩ | ⟨ha, -⟩
    · obtain ⟨fs, he⟩ : beforeStop es <+: es := beforeStop_prefix
      refine .inr ⟨e, ?_, hk⟩
      rw [← he, dispatched_append]
      exact List.mem_append_left _ hd
    · rw [any_isStop_beforeStop] at ha
      cases ha
  · -- the dispatch thread holds on to the queue, so nothing was refused
    have hg := ho.given t
    rw [ho.willing (isAttached_of_isLooping hl), hp, ofThread_nil, List.append_nil, List.append_nil,
      ← ho.accepted_eq_ofThread (by simp [hof]), hof, ofThread_eq_map (by simp), List.map_map] at hg
    exact .inl (hg.symm.trans (List.map_id _))

section
variable {n : Nat} {evs : List Event} (h₀ : start n = .ok b₀) (h : b₀.run? ls = some (b, es))
  (hc : commands es = evs.map (fun e => (t, .publish e)) ++ [(t, .close)])
include h₀ h hc

/-- If a thread alone publishes some events and then closes, all of them came into the queue before
    the stop signal, or an event ends all delivery. -/
theorem accepted_beforeStop :
    accepted (beforeStop es) = evs ∨ ∃ e ∈ dispatched es, e.kind.isShutdown = true := by
  have hs : es.any Entry.isStop = true := any_isStop_iff.2 ⟨(t, .close), by simp [hc], rfl⟩
  obtain ⟨ms, b₁, u, fs, hm, hu, he⟩ := exists_run_to_stop h hs
  have hcs : commands es = commands (beforeStop es) ++ (u, .close) :: commands fs :=
    (congrArg commands he).trans commands_append
  obtain ⟨hpre, hut, -⟩ := eq_of_append_cons_eq_concat (p := fun c => c.2 = .close)
    (hcs.symm.trans hc) rfl (by simp)
  cases hut
  rw [← List.append_nil (evs.map _)] at hpre
  exact accepted_beforeStop_of_pending h₀ hm (offers_of_commands_eq hpre nofun)
    (pending_of_mayCall hu)

/-- All that comes into the queue is what the thread published, in this order. -/
theorem accepted_prefix_of_commands : accepted es <+: evs := by
  obtain ⟨ho, -⟩ := orderly_of_run h₀ h
  have hof : offers es = evs.map fun e => (t, e) := offers_of_commands_eq hc (by simp)
  have hg := ho.given t
  rw [← ho.accepted_eq_ofThread (by simp [hof]), hof, ofThread_eq_map (by simp), List.map_map] at hg
  exact ⟨_, (List.append_assoc _ _ _).symm.trans (hg.symm.trans (List.map_id _))⟩

/-- If a thread alone publishes and then closes, what is delivered depends on its events only. -/
theorem dispatched_of_commands (hl : b.phase.isLooping = false) :
    dispatched es = throughShutdown evs := by
  obtain ⟨m, hm⟩ := accepted_prefix_of_commands h₀ h hc
  rcases delivered_of_left h₀ h hl with ⟨⟨e, he, hs⟩, hd⟩ | ⟨hn, -, hp, ha⟩
  · rw [hd, ← hm, throughShutdown_append]
    exact ⟨e, (orderly_of_run h₀ h).1.dispatched_isPrefix.subset he, hs⟩
  · have hb : accepted (beforeStop es) = evs := (accepted_beforeStop h₀ h hc).resolve_right
      fun ⟨e, he, hs⟩ => by rw [hn e he] at hs; cases hs
    have hd : dispatched es = evs := (ha.trans ⟨m, hm⟩).eq_of_length_le (hb ▸ hp.length_le)
    rw [← hd, throughShutdown_eq_self hn]

end

/-- **Close delivers everything queued.**  Once the dispatch thread has left the loop, either an
    event has ended all delivery, and what was dispatched is what came into the queue up to the
    first such event, or there was none, and all that came into the queue before the first stop
    signal was dispatched, in this order.  If one thread alone publishes some events and then makes
    the only close call, what was dispatched when this call has returned is its events up to the
    first that ends all delivery, whatever the schedule and the capacity of the queue. -/
theorem delivered_of_run {n : Nat} (h₀ : start n = .ok b₀) (h : b₀.run? ls = some (b, es)) :
    (b.phase.isLooping = false →
      ((∃ e ∈ dispatched es, e.kind.isShutdown = true) ∧
          dispatched es = throughShutdown (accepted es)) ∨
        (∀ e ∈ dispatched es, e.kind.isShutdown = false) ∧ es.any Entry.isStop = true ∧
          accepted (beforeStop es) <+: dispatched es ∧ dispatched es <+: accepted es) ∧
    ∀ (t : Thread) (evs : List Event) (hasJoined : Bool),
      commands es = evs.map (fun e => (t, .publish e)) ++ [(t, .close)] →
      .closed t hasJoined ∈ es → dispatched es = throughShutdown evs :=
  ⟨delivered_of_left h₀ h, fun _ _ _ hc hj =>
    dispatched_of_commands h₀ h hc (not_isLooping_of_isReleased (isReleased_of_run h hj))⟩

/-- Three events, the second of which ends all delivery. -/
def cutEvents : List Event :=
  [{ originator := none, kind := ⟨"a"⟩, description := "" }, .platformShutdown ⟨"b"⟩,
    { originator := none, kind := ⟨"c"⟩, description := "" }]

/-- A thread publishes them and closes, and the stop signal is taken before any of them. -/
def overtakenRun : List (Label Unit) :=
  cutEvents.flatMap (fun e => [.publish (.caller 0) e, .offer (.caller 0)]) ++
    [.close (.caller 0), .takeStop, .proceed, .proceed, .proceed, .proceed, .proceed, .proceed,
      .proceed, .proceed, .claim (.caller 0), .finish (.caller 0)]

theorem delivered_of_run_overtaken :
    ∃ b₀ b es, start 3 = .ok b₀ ∧ b₀.run? overtakenRun = some (b, es) ∧
      commands es = cutEvents.map (fun e => (.caller 0, .publish e)) ++ [(.caller 0, .close)] ∧
      .closed (.caller 0) true ∈ es ∧ dispatched es = throughShutdown cutEvents ∧
      throughShutdown cutEvents = cutEvents.take 2 :=
  ⟨_, _, _, rfl, rfl, rfl, List.mem_of_getLast? rfl,
    (@delivered_of_run Unit _ _ overtakenRun _ 3 rfl rfl).2 (.caller 0) cutEvents true rfl
      (List.mem_of_getLast? rfl), rfl⟩

end PlatformCore.Bus
