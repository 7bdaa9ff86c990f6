/-
  What the report of a run of the bus tells.

  * `Moves` is the relation of the steps: one constructor for each thing that a step can do, with
    all that it needs and all that it changes; `moves_of_step?` says that it has every step;
  * `accepts`, `refusals`, `offers`, `told` and `dispatched` pick out of a report who got which
    event into the queue, who came too late with one, who called publish, who was told of what, and
    what was dispatched;
  * `exists_moves_of_split` finds the step that an entry of a report tells of;
  * `run?_induction`: what holds of a fresh bus and is kept by every move holds after every run.
-/
import PlatformCore.Bus.Step

namespace PlatformCore.Bus

variable {κ : Type}

/-! ## Moves -/

/-- What a step does. -/
inductive Moves : Bus κ → Label κ → Bus κ → List (Entry κ) → Prop
  | publish {b : Bus κ} {t : Thread} {e : Event} (hm : b.mayCall t = true) :
    Moves b (.publish t e) { b with calls := b.calls.insert t (.publishing ⟨e, false⟩) }
      [.offered t e]
  | accept {b : Bus κ} {t : Thread} {o : Offer} (hc : b.calls.get? t = some (.publishing o))
      (ha : b.phase.isAttached = true) (hq : b.queue.length < b.capacity) :
    Moves b (.offer t)
      { b with
        queue := b.queue ++ [o.event]
        calls := b.calls.erase t
        stats := { b.stats with published := b.stats.published + 1 } }
      [.accepted t o.event]
  | stall {b : Bus κ} {t : Thread} {o : Offer} (hc : b.calls.get? t = some (.publishing o))
      (ha : b.phase.isAttached = true) (hq : b.capacity ≤ b.queue.length) :
    Moves b (.offer t)
      { b with calls := b.calls.insert t (.publishing { o with hasWaited := true }) }
      (if o.hasWaited then [] else [.stalled t o.event])
  | refuse {b : Bus κ} {t : Thread} {o : Offer} (hc : b.calls.get? t = some (.publishing o))
      (ha : b.phase.isAttached = false) :
    Moves b (.offer t)
      { b with
        calls := b.calls.erase t
        stats := { b.stats with dropped := b.stats.dropped + 1 } }
      [.refused t o.event]
  | subscribe {b : Bus κ} {t : Thread} {f : Filter} {c : κ} (hm : b.mayCall t = true) :
    Moves b (.subscribe t f c) { b with table := b.table.insert f c } [.subscribed t f c]
  | close {b : Bus κ} {t : Thread} (hm : b.mayCall t = true) :
    Moves b (.close t)
      { b with
        isStopRaised := true
        calls := if t = .dispatch then b.calls else b.calls.insert t .closing }
      [.stopRaised t]
  | claim {b : Bus κ} {t : Thread} (hc : b.calls.get? t = some .closing) :
    Moves b (.claim t)
      { b with
        hasHandle := false
        calls := b.calls.insert t (if b.hasHandle then .joining else .awaiting) } []
  | finish {b : Bus κ} {t : Thread} {hasJoined : Bool}
      (hc : b.calls.get? t = some (if hasJoined then .joining else .awaiting))
      (hp : (if hasJoined then b.phase.isGone else b.phase.isReleased) = true) :
    Moves b (.finish t) { b with calls := b.calls.erase t } [.closed t hasJoined]
  | takeEvent {b : Bus κ} {e : Event} {rest : List Event} (hp : b.phase = .selecting)
      (hq : b.queue = e :: rest) :
    Moves b .takeEvent (b.begin false e rest).1 [.taken e]
  | takeStop {b : Bus κ} (hp : b.phase = .selecting) (hs : b.isStopRaised = true) :
    Moves b .takeStop { b with phase := .draining, isStopRaised := false } []
  | drain {b : Bus κ} {e : Event} {rest : List Event} (hp : b.phase = .draining)
      (hq : b.queue = e :: rest) :
    Moves b .proceed (b.begin true e rest).1 [.taken e]
  | leave {b : Bus κ} (hp : b.phase = .draining) (hq : b.queue = []) :
    Moves b .proceed { b with phase := .leaving } []
  | tell {b : Bus κ} {d : Delivery κ} {c : κ} {cs : List κ} (hp : b.phase = .delivering d)
      (hd : d.pending = c :: cs) :
    Moves b .proceed { b with phase := .handling { d with pending := cs } c } [.told c d.event]
  | complete {b : Bus κ} {d : Delivery κ} (hp : b.phase = .delivering d) (hd : d.pending = []) :
    Moves b .proceed
      { b with
        phase := d.next
        stats := { b.stats with dispatched := b.stats.dispatched + 1 } }
      [.dispatched d.event]
  | stop {b : Bus κ} (hp : b.phase = .leaving) : Moves b .proceed { b with phase := .stopped } []
  | detach {b : Bus κ} (hp : b.phase = .stopped) :
    Moves b .proceed { b with phase := .detached } []
  | release {b : Bus κ} (hp : b.phase = .detached) :
    Moves b .proceed { b with phase := .released } []
  | vanish {b : Bus κ} (hp : b.phase = .released) : Moves b .proceed { b with phase := .gone } []
  | endWork {b : Bus κ} {d : Delivery κ} {c : κ} {o : Ending} (hp : b.phase = .handling d c)
      (hc : b.calls.get? .dispatch = none) :
    Moves b (.endWork o)
      { b with
        phase := .delivering d
        stats := { b.stats with
          consumerFailures := b.stats.consumerFailures + if o.isFailure then 1 else 0 } }
      [.ended c d.event o]

variable {b b' : Bus κ} {l : Label κ} {es : List (Entry κ)} {t : Thread} {o : Ending}

theorem moves_of_offer? (h : b.offer? t = some (b', es)) : Moves b (.offer t) b' es := by
  simp only [offer?] at h
  split at h
  · rename_i o hc
    rcases hans : b.answer with _ | _ | _
    · obtain ⟨ha, hq⟩ := answer_eq_accepted_iff.1 hans
      rw [hans] at h
      cases h
      exact .accept hc ha hq
    · obtain ⟨ha, hq⟩ := answer_eq_timedOut_iff.1 hans
      rw [hans] at h
      cases h
      exact .stall hc ha hq
    · rw [hans] at h
      cases h
      exact .refuse hc (answer_eq_disconnected_iff.1 hans)
  · cases h

theorem moves_of_finish? (h : b.finish? t = some (b', es)) : Moves b (.finish t) b' es := by
  simp only [finish?] at h
  split at h
  · rename_i hc
    split at h
    · rename_i hp
      cases h
      exact @Moves.finish κ b t true hc hp
    · cases h
  · rename_i hc
    split at h
    · rename_i hp
      cases h
      exact @Moves.finish κ b t false hc hp
    · cases h
  · cases h

theorem moves_of_proceed? (h : b.proceed? = some (b', es)) : Moves b .proceed b' es := by
  rcases hp : b.phase with _ | _ | d | ⟨d, c⟩ | _ | _ | _ | _ | _
  all_goals simp only [proceed?, hp] at h
  case selecting => cases h
  case draining =>
    rcases hq : b.queue with _ | ⟨e, rest⟩
    · rw [hq] at h; cases h; simpa only [hq] using Moves.leave hp hq
    · rw [hq] at h; cases h; exact .drain hp hq
  case delivering =>
    rcases hd : d.pending with _ | ⟨c, cs⟩
    · rw [hd] at h; cases h; exact .complete hp hd
    · rw [hd] at h; cases h; exact .tell hp hd
  case handling => cases h
  case leaving => cases h; exact .stop hp
  case stopped => cases h; exact .detach hp
  case detached => cases h; exact .release hp
  case released => cases h; exact .vanish hp
  case gone => cases h

theorem moves_of_endWork? (h : b.endWork? o = some (b', es)) : Moves b (.endWork o) b' es := by
  simp only [endWork?] at h
  split at h
  · rename_i d c hp
    split at h
    · rename_i hc
      cases h
      exact .endWork hp (Option.isNone_iff_eq_none.1 hc)
    · cases h
  · cases h

/-- **Every step is a move.** -/
theorem moves_of_step? (h : b.step? l = some (b', es)) : Moves b l b' es := by
  cases l with
  | publish t e =>
    simp only [step?, publish?] at h
    split at h
    · rename_i hm; cases h; exact .publish hm
    · cases h
  | offer t => exact moves_of_offer? h
  | subscribe t f c =>
    simp only [step?, subscribe?] at h
    split at h
    · rename_i hm; cases h; exact .subscribe hm
    · cases h
  | close t =>
    simp only [step?, close?] at h
    split at h
    · rename_i hm; cases h; exact .close hm
    · cases h
  | claim t =>
    simp only [step?, claim?] at h
    split at h
    · rename_i hc; cases h; exact .claim hc
    · cases h
  | finish t => exact moves_of_finish? h
  | takeEvent =>
    simp only [step?, takeEvent?] at h
    split at h
    · rename_i hp hq; cases h; exact .takeEvent hp hq
    · cases h
  | takeStop =>
    simp only [step?, takeStop?] at h
    split at h
    · rename_i hp hs; cases h; exact .takeStop hp hs
    · cases h
  | proceed => exact moves_of_proceed? h
  | endWork o => exact moves_of_endWork? h

/-! ## Runs -/

theorem run?_cons_eq_some {ls : List (Label κ)} (h : b.run? (l :: ls) = some (b', es)) :
    ∃ b₁ es₁ es₂, b.step? l = some (b₁, es₁) ∧ b₁.run? ls = some (b', es₂) ∧
      es = es₁ ++ es₂ := by
  simp only [run?, Option.bind_eq_bind, Option.bind_eq_some_iff, Prod.exists, Option.pure_def,
    Option.some.injEq, Prod.mk.injEq] at h
  obtain ⟨b₁, es₁, hs, b₂, es₂, hr, rfl, rfl⟩ := h
  exact ⟨b₁, es₁, es₂, hs, hr, rfl⟩

/-- A step reports one thing, or nothing. -/
theorem entry_of_moves (h : Moves b l b' es) : es = [] ∨ ∃ x, es = [x] := by
  cases h with
  | claim | takeStop | leave | stop | detach | release | vanish => exact .inl rfl
  | stall =>
    split
    · exact .inl rfl
    · exact .inr ⟨_, rfl⟩
  | _ => exact .inr ⟨_, rfl⟩

/-- Where a report tells of something, the run was cut by the step that it tells of. -/
theorem exists_moves_of_split {ls : List (Label κ)} {pre post : List (Entry κ)} {x : Entry κ}
    (h : b.run? ls = some (b', pre ++ x :: post)) :
    ∃ ms m ns b₁ b₂, b.run? ms = some (b₁, pre) ∧ Moves b₁ m b₂ [x] ∧
      b₂.run? ns = some (b', post) := by
  induction ls generalizing b pre with
  | nil =>
    simp only [run?, Option.some.injEq, Prod.mk.injEq, List.nil_eq, List.append_eq_nil_iff] at h
    exact absurd h.2.2 (List.cons_ne_nil x post)
  | cons l ls ih =>
    obtain ⟨b₁, es₁, es₂, hstep, hr, he⟩ := run?_cons_eq_some h
    rcases entry_of_moves (moves_of_step? hstep) with rfl | ⟨y, rfl⟩
    · rw [List.nil_append] at he
      obtain ⟨ms, m, ns, b₂, b₃, hm, hx, hn⟩ := ih (he ▸ hr)
      exact ⟨l :: ms, m, ns, b₂, b₃, run?_cons hstep hm, hx, hn⟩
    · rcases pre with _ | ⟨z, pre⟩
      · cases he
        exact ⟨[], l, ls, b, b₁, rfl, moves_of_step? hstep, hr⟩
      · simp only [List.cons_append, List.nil_append, List.cons.injEq] at he
        obtain ⟨rfl, he⟩ := he
        obtain ⟨ms, m, ns, b₂, b₃, hm, hx, hn⟩ := ih (he ▸ hr)
        exact ⟨l :: ms, m, ns, b₂, b₃, run?_cons hstep hm, hx, hn⟩

/-- What is kept by every move is kept by every run, whatever was reported before. -/
theorem run?_induction {P : Bus κ → List (Entry κ) → Prop} {ls : List (Label κ)}
    {r : List (Entry κ)} (h₀ : P b r)
    (hs : ∀ b l b' es fs, P b es → Moves b l b' fs → P b' (es ++ fs))
    (h : b.run? ls = some (b', es)) : P b' (r ++ es) := by
  induction ls generalizing b r es with
  | nil =>
    cases h
    rwa [List.append_nil]
  | cons l ls ih =>
    obtain ⟨b₁, es₁, es₂, hstep, hr, rfl⟩ := run?_cons_eq_some h
    rw [← List.append_assoc]
    exact ih (hs _ _ _ _ _ h₀ (moves_of_step? hstep)) hr

theorem start_eq_ok {n : Nat} (h : start n = .ok b) :
    ∃ hn : 0 < n, b = { capacity := n, capacity_pos := hn } := by
  simp only [start] at h
  split at h
  · rename_i hn
    cases h
    exact ⟨hn, rfl⟩
  · cases h

/-! ## Views of a report -/

/-- The events of the publish calls, each with its thread, in the order of the calls. -/
def offers (es : List (Entry κ)) : List (Thread × Event) :=
  es.filterMap fun
    | .offered t e => some (t, e)
    | _ => none

/-- The events that came into the queue, each with the thread that published it. -/
def accepts (es : List (Entry κ)) : List (Thread × Event) :=
  es.filterMap fun
    | .accepted t e => some (t, e)
    | _ => none

/-- The events that came too late, each with the thread that published it. -/
def refusals (es : List (Entry κ)) : List (Thread × Event) :=
  es.filterMap fun
    | .refused t e => some (t, e)
    | _ => none

/-- The events all of whose consumers were told, in the order in which that was done. -/
def dispatched (es : List (Entry κ)) : List Event :=
  es.filterMap fun
    | .dispatched e => some e
    | _ => none

/-- The consumers that were told of an event, each with the event, in the order of the calls. -/
def told (es : List (Entry κ)) : List (κ × Event) :=
  es.filterMap fun
    | .told c e => some (c, e)
    | _ => none

/-- The events that came into the queue, in the order in which they came. -/
def accepted (es : List (Entry κ)) : List Event := (accepts es).map Prod.snd

/-- The events of one thread. -/
def ofThread (t : Thread) (l : List (Thread × Event)) : List Event :=
  l.filterMap fun p => if p.1 = t then some p.2 else none

variable {fs : List (Entry κ)} {u : Thread} {e : Event} {k m : List (Thread × Event)}

@[simp] theorem offers_append : offers (es ++ fs) = offers es ++ offers fs :=
  List.filterMap_append

@[simp] theorem accepts_append : accepts (es ++ fs) = accepts es ++ accepts fs :=
  List.filterMap_append

@[simp] theorem refusals_append : refusals (es ++ fs) = refusals es ++ refusals fs :=
  List.filterMap_append

@[simp] theorem dispatched_append : dispatched (es ++ fs) = dispatched es ++ dispatched fs :=
  List.filterMap_append

@[simp] theorem told_append : told (es ++ fs) = told es ++ told fs := List.filterMap_append

@[simp] theorem accepted_append : accepted (es ++ fs) = accepted es ++ accepted fs := by
  simp [accepted]

@[simp] theorem ofThread_nil : ofThread t [] = [] := rfl

@[simp] theorem ofThread_append : ofThread t (k ++ m) = ofThread t k ++ ofThread t m :=
  List.filterMap_append

theorem mem_ofThread : e ∈ ofThread t k ↔ (t, e) ∈ k := by
  simp [ofThread]

theorem ofThread_eq_map (h : ∀ p ∈ k, p.1 = t) : ofThread t k = k.map Prod.snd := by
  induction k with
  | nil => rfl
  | cons p k ih =>
    obtain ⟨hp, hk⟩ := List.forall_mem_cons.1 h
    simp only [ofThread, List.filterMap_cons, hp, if_true, List.map_cons]
    exact congrArg (p.2 :: ·) (ih hk)

@[simp] theorem ofThread_singleton : ofThread t [(u, e)] = if u = t then [e] else [] := by
  by_cases h : u = t <;> simp [ofThread, h]

end PlatformCore.Bus
