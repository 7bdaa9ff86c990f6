/-
  What the return of a close call says.

  A close call returns when the dispatch thread has let go of all it held, the queue first.  From
  then on the bus is at rest: nobody is told anything, every event comes too late, and this is all
  that is counted.  And close calls do return: as long as no consumer waits in a publish call of its
  own, the dispatch thread or the call itself can go on.

  * `Rests` is what holds of a run of a bus that is at rest, and `rests_of_run` says that it does;
  * `Signalled` says that the stop signal is not lost, and `Answered` that every close call under
    way has seen to it;
  * `exists_step_of_isClose`: where a close call is under way, somebody can go on;
  * `rest_of_run`: all of this together.
-/
import PlatformCore.Proofs.Bus.Close

namespace PlatformCore.Bus

variable {κ : Type} {b b' b₀ : Bus κ} {l : Label κ} {ls : List (Label κ)} {es fs : List (Entry κ)}
  {t u : Thread} {c : Call} {o : Offer} {n : Nat}

/-! ## After the return -/

theorem isRunning_of_isReleased (h : b.phase.isReleased = true) : b.isRunning = false := by
  rcases hp : b.phase with _ | _ | _ | _ | _ | _ | _ | _ | _ <;> rw [hp] at h
  case released | gone => rw [isRunning, hp]; rfl
  all_goals cases h

theorem isAttached_of_isReleased {p : Phase κ} (h : p.isReleased = true) :
    p.isAttached = false := by
  cases p with
  | released | gone => rfl
  | _ => cases h

/-- What holds of a run from the bus `b`, which is at rest, to the bus `b'` with the report `fs`. -/
structure Rests (b : Bus κ) (fs : List (Entry κ)) (b' : Bus κ) : Prop where
  isReleased : b'.phase.isReleased = true
  told_eq : told fs = []
  accepts_eq : accepts fs = []
  stats_eq : b'.stats = { b.stats with dropped := b.stats.dropped + (refusals fs).length }
  /-- The events of a thread come too late one after the other, and none but the last is still to
      come. -/
  given : ∀ t, ofThread t (refusals fs) ++ pending b'.calls t =
    pending b.calls t ++ ofThread t (offers fs)

theorem rests_of_moves (h : Moves b l b' es) (hb : b.phase.isReleased = true) :
    Rests b es b' := by
  have hn : accepts es = [] := (accepts_of_moves h).resolve_right fun ha => by
    rw [isAttached_of_isReleased hb] at ha
    cases ha
  have hg : ∀ t, ofThread t (refusals es) ++ pending b'.calls t =
      pending b.calls t ++ ofThread t (offers es) := by
    intro t
    rw [given_of_moves h t, hn, ofThread_nil, List.nil_append]
  cases h with
  | takeEvent hp _ | takeStop hp _ | drain hp _ | leave hp _ | tell hp _ | complete hp _ | stop hp
  | detach hp | release hp | endWork hp _ => rw [hp] at hb; cases hb
  | vanish => exact ⟨rfl, rfl, hn, rfl, hg⟩
  | accept => cases hn
  | stall _ ha _ => rw [isAttached_of_isReleased hb] at ha; cases ha
  | _ => exact ⟨hb, rfl, hn, rfl, hg⟩

theorem rests_of_run (h : b.run? ls = some (b', fs)) (hb : b.phase.isReleased = true) :
    Rests b fs b' := by
  refine run?_induction (P := fun b' fs => Rests b fs b') (r := []) ?_ ?_ h
  · exact ⟨hb, rfl, rfl, rfl, fun t => (List.append_nil _).symm⟩
  · intro b₁ l b₂ fs gs h₁ hm
    have h₂ := rests_of_moves hm h₁.isReleased
    refine ⟨h₂.isReleased, ?_, ?_, ?_, fun t => ?_⟩
    · rw [told_append, h₁.told_eq, h₂.told_eq, List.append_nil]
    · rw [accepts_append, h₁.accepts_eq, h₂.accepts_eq, List.append_nil]
    · rw [h₂.stats_eq, h₁.stats_eq, refusals_append, List.length_append, Nat.add_assoc]
    · rw [refusals_append, ofThread_append, List.append_assoc, h₂.given t, ← List.append_assoc,
        h₁.given t, offers_append, ofThread_append, List.append_assoc]

/-- A publish call returns with its next step, and its event counts as one that came too late. -/
theorem step?_offer_of_isReleased (hb : b.phase.isReleased = true)
    (hc : b.calls.get? t = some (.publishing o)) :
    ∃ b', b.step? (.offer t) = some (b', [.refused t o.event]) ∧
      b'.stats = { b.stats with dropped := b.stats.dropped + 1 } := by
  have ha : b.answer = .disconnected :=
    answer_eq_disconnected_iff.2 (isAttached_of_isReleased hb)
  simp only [step?, offer?, hc, ha, receive]
  exact ⟨_, rfl, rfl⟩

/-! ## Close calls under way -/

def Call.isClose : Call → Bool
  | publishing _ => false
  | _ => true

/-- The stop signal waits, or was taken, or is not needed any more. -/
def Signalled (b : Bus κ) : Prop :=
  b.isStopRaised = true ∨ b.phase.isDraining = true ∨ b.phase.isLooping = false

theorem signalled_of_moves (h : Moves b l b' es) (hb : Signalled b) : Signalled b' := by
  cases h with
  | close => exact .inl rfl
  | takeStop | drain => exact .inr (.inl rfl)
  | leave | stop | detach | release | vanish => exact .inr (.inr rfl)
  | takeEvent hp _ =>
    rw [Signalled, hp] at hb
    rcases hb with hb | hb | hb
    · exact .inl hb
    · cases hb
    · cases hb
  | tell hp _ | endWork hp _ =>
    rw [Signalled, hp] at hb
    exact hb
  | @complete d hp _ =>
    rw [Signalled, hp] at hb
    rcases hb with hb | hb | hb
    · exact .inl hb
    · -- the draining goes on, unless the event ends all delivery
      have hd : d.isDraining = true := hb
      rcases hs : d.event.kind.isShutdown with _ | _
      · exact .inr (.inl (by simp [Delivery.next, hs, hd, Phase.isDraining]))
      · exact .inr (.inr (by simp [Delivery.next, hs, Phase.isLooping]))
    · cases hb
  | _ => exact hb

theorem isClose_of_moves_of_ne (h : Moves b l b' es)
    (hl : ∀ u, l ≠ .close u) (hc : b'.calls.get? t = some c) (hi : c.isClose = true) :
    ∃ c', b.calls.get? t = some c' ∧ c'.isClose = true := by
  cases h with
  | publish | stall =>
    rcases Registry.get?_insert_eq_some_iff.1 hc with ⟨-, rfl⟩ | ⟨-, hc⟩
    · cases hi
    · exact ⟨c, hc, hi⟩
  | accept | refuse | finish => exact ⟨c, (Registry.get?_erase_eq_some_iff.1 hc).2, hi⟩
  | close => exact absurd rfl (hl _)
  | claim hcu =>
    rcases Registry.get?_insert_eq_some_iff.1 hc with ⟨rfl, -⟩ | ⟨-, hc⟩
    · exact ⟨_, hcu, rfl⟩
    · exact ⟨c, hc, hi⟩
  | _ => exact ⟨c, hc, hi⟩

/-- A close call was under way before, or begins with the stop signal on a thread that does not
    dispatch. -/
theorem isClose_of_moves (h : Moves b l b' es) (hc : b'.calls.get? t = some c)
    (hi : c.isClose = true) :
    (∃ c', b.calls.get? t = some c' ∧ c'.isClose = true) ∨
      t ≠ .dispatch ∧ b'.isStopRaised = true := by
  by_cases hl : ∃ u, l = .close u
  · obtain ⟨u, rfl⟩ := hl
    cases h
    by_cases hu : u = .dispatch
    · simp only [hu, if_true] at hc
      exact .inl ⟨c, hc, hi⟩
    · simp only [hu, if_false] at hc
      rcases Registry.get?_insert_eq_some_iff.1 hc with ⟨rfl, -⟩ | ⟨-, hc⟩
      · exact .inr ⟨hu, rfl⟩
      · exact .inl ⟨c, hc, hi⟩
  · exact .inl (isClose_of_moves_of_ne h (fun u hu => hl ⟨u, hu⟩) hc hi)

/-- A close call stays under way until the dispatch thread has let go of all it held. -/
theorem isClose_of_not_isReleased (h : Moves b l b' es)
    (hc : b.calls.get? t = some c) (hi : c.isClose = true) (hr : b'.phase.isReleased = false) :
    ∃ c', b'.calls.get? t = some c' ∧ c'.isClose = true := by
  have hfree : ∀ u, b.mayCall u = true → t ≠ u := by
    rintro u hm rfl
    simp [mayCall, hc] at hm
  have hpub : ∀ u o, b.calls.get? u = some (.publishing o) → t ≠ u := by
    rintro u o hu rfl
    cases hc.symm.trans hu
    cases hi
  cases h with
  | publish hm => exact ⟨c, (Registry.get?_insert_of_ne (hfree _ hm)).trans hc, hi⟩
  | stall hu => exact ⟨c, (Registry.get?_insert_of_ne (hpub _ _ hu)).trans hc, hi⟩
  | accept hu | refuse hu => exact ⟨c, (Registry.get?_erase_of_ne (hpub _ _ hu)).trans hc, hi⟩
  | @close u hm =>
    refine ⟨c, ?_, hi⟩
    change (if u = .dispatch then b.calls else b.calls.insert u .closing).get? t = some c
    split
    · exact hc
    · rw [Registry.get?_insert_of_ne (hfree u hm)]
      exact hc
  | @claim u hcu =>
    by_cases hu : t = u
    · subst hu
      refine ⟨_, Registry.get?_insert_self, ?_⟩
      split <;> rfl
    · exact ⟨c, (Registry.get?_insert_of_ne hu).trans hc, hi⟩
  | @finish u j hcu hp =>
    have hrel : b.phase.isReleased = true := by
      rcases j with _ | _
      · exact hp
      · exact isReleased_of_isGone hp
    rw [hrel] at hr
    cases hr
  | _ => exact ⟨c, hc, hi⟩

/-- What holds of the close calls of a bus that came out of a run. -/
structure Answered (b : Bus κ) : Prop where
  outside : ∀ c, b.calls.get? .dispatch = some c → c.isClose = false
  signalled : ∀ t c, b.calls.get? t = some c → c.isClose = true → Signalled b

theorem answered_fresh (h : 0 < n) :
    Answered ({ capacity := n, capacity_pos := h } : Bus κ) where
  outside c hc := by
    rw [Registry.get?_empty] at hc
    cases hc
  signalled t c hc _ := by
    rw [Registry.get?_empty] at hc
    cases hc

theorem answered_of_moves (hb : Answered b) (h : Moves b l b' es) : Answered b' where
  outside c hc := by
    refine Bool.eq_false_iff.2 fun hi => ?_
    rcases isClose_of_moves h hc hi with ⟨c', hc', hi'⟩ | ⟨ht, -⟩
    · rw [hb.outside c' hc'] at hi'
      cases hi'
    · exact ht rfl
  signalled t c hc hi := by
    rcases isClose_of_moves h hc hi with ⟨c', hc', hi'⟩ | ⟨-, hs⟩
    · exact signalled_of_moves h (hb.signalled t c' hc' hi')
    · exact .inl hs

theorem answered_of_run (h₀ : start n = .ok b₀) (h : b₀.run? ls = some (b, es)) : Answered b := by
  obtain ⟨hn, rfl⟩ := start_eq_ok h₀
  refine run?_induction (P := fun b _ => Answered b) (r := []) (answered_fresh hn) ?_ h
  intro b l b' es fs hb hm
  exact answered_of_moves hb hm

/-! ## Somebody can go on -/

/-- Whether a step is one of the dispatch thread, or of a consumer that returns to it. -/
def Label.isInside : Label κ → Bool
  | takeEvent | takeStop | proceed | endWork _ => true
  | _ => false

/-- The dispatch thread can go on, once the stop signal was raised, until it has ended. -/
theorem exists_isInside_step (hs : Signalled b) (hd : b.calls.get? .dispatch = none)
    (hg : b.phase.isGone = false) :
    ∃ l : Label κ, l.isInside = true ∧ (b.step? l).isSome = true := by
  rcases hp : b.phase with _ | _ | ⟨e, w, _ | ⟨c, cs⟩⟩ | ⟨d, c⟩ | _ | _ | _ | _ | _
  case selecting =>
    have hr : b.isStopRaised = true := by
      rw [Signalled, hp] at hs
      rcases hs with hs | hs | hs
      · exact hs
      · cases hs
      · cases hs
    exact ⟨.takeStop, rfl, by simp [step?, takeStop?, hp, hr]⟩
  case draining =>
    refine ⟨.proceed, rfl, ?_⟩
    rcases hq : b.queue with _ | ⟨e, rest⟩ <;> simp [step?, proceed?, hp, hq]
  case handling => exact ⟨.endWork .ok, rfl, by simp [step?, endWork?, hp, hd]⟩
  case gone =>
    rw [hp] at hg
    cases hg
  all_goals exact ⟨.proceed, rfl, by simp [step?, proceed?, hp]⟩

/-- The dispatch thread has no call under way, if its consumers do not publish. -/
theorem get?_dispatch_eq_none (hb : Answered b) (hd : pending b.calls .dispatch = []) :
    b.calls.get? .dispatch = none := by
  rcases hc : b.calls.get? .dispatch with _ | c
  · rfl
  · have hi := hb.outside c hc
    rw [pending_of_get? hc] at hd
    cases c with
    | publishing => cases hd
    | _ => cases hi

theorem exists_step_of_isGone (hg : b.phase.isGone = true)
    (hc : b.calls.get? t = some c) (hi : c.isClose = true) :
    ∃ l : Label κ, (l = .claim t ∨ l = .finish t) ∧ (b.step? l).isSome = true := by
  have hr := isReleased_of_isGone hg
  cases c with
  | publishing => cases hi
  | closing => exact ⟨.claim t, .inl rfl, by simp [step?, claim?, hc]⟩
  | joining => exact ⟨.finish t, .inr rfl, by simp [step?, finish?, hc, hg]⟩
  | awaiting => exact ⟨.finish t, .inr rfl, by simp [step?, finish?, hc, hr]⟩

theorem exists_step_of_isClose (hb : Answered b) (hd : pending b.calls .dispatch = [])
    (hc : b.calls.get? t = some c) (hi : c.isClose = true) :
    ∃ l : Label κ, (l = .claim t ∨ l = .finish t ∨ l.isInside = true) ∧
      (b.step? l).isSome = true := by
  rcases hg : b.phase.isGone with _ | _
  · obtain ⟨l, hl, hs⟩ :=
      exists_isInside_step (hb.signalled t c hc hi) (get?_dispatch_eq_none hb hd) hg
    exact ⟨l, .inr (.inr hl), hs⟩
  · obtain ⟨l, hl, hs⟩ := exists_step_of_isGone hg hc hi
    exact ⟨l, hl.imp_right .inl, hs⟩

/-! ## The return of a close call -/

/-- After the return of a close call the bus is at rest for good, and every publish call returns
    with its next step. -/
theorem rests_of_closed {hasJoined : Bool} {ms : List (Label κ)} (h : b₀.run? ls = some (b, es))
    (hc : .closed t hasJoined ∈ es) (hm : b.run? ms = some (b', fs)) :
    b'.isRunning = false ∧ Rests b fs b' ∧
      ∀ u o, b'.calls.get? u = some (.publishing o) →
        ∃ b₂, b'.step? (.offer u) = some (b₂, [.refused u o.event]) ∧
          b₂.stats = { b'.stats with dropped := b'.stats.dropped + 1 } := by
  have hr := rests_of_run hm (isReleased_of_run h hc)
  exact ⟨isRunning_of_isReleased hr.isReleased, hr, fun u o ho =>
    step?_offer_of_isReleased hr.isReleased ho⟩

theorem step?_close_dispatch (hm : b.mayCall .dispatch = true) :
    ∃ b', b.step? (.close .dispatch) = some (b', [.stopRaised .dispatch]) ∧
      b'.mayCall .dispatch = true := by
  simp only [step?, close?, hm, if_true]
  exact ⟨_, rfl, hm⟩

theorem Orderly.pending_eq_nil (h : Orderly b es) (ht : ∀ p ∈ offers es, p.1 ≠ t) :
    pending b.calls t = [] := by
  have ho : ofThread t (offers es) = [] := List.eq_nil_iff_forall_not_mem.2 fun e he =>
    ht _ (mem_ofThread.1 he) rfl
  have hg := h.given t
  rw [ho] at hg
  exact (List.append_eq_nil_iff.1 hg.symm).2

/-- **What the return of a close call says.**  After it the bus does not run, nobody is told
    anything, and nothing changes in what is counted but that every event comes too late, at once
    and exactly once.  A close call on the dispatch thread returns at once, even if others wait.
    And if the consumers do not publish, no close call waits for nothing: as long as one is under
    way, it or the dispatch thread can go on, where the dispatch thread counts as able to go on if
    the consumer at work has but to return. -/
theorem rest_of_run (h₀ : start n = .ok b₀) (h : b₀.run? ls = some (b, es)) :
    (∀ t hasJoined, .closed t hasJoined ∈ es → ∀ ms b' fs, b.run? ms = some (b', fs) →
      b'.isRunning = false ∧ Rests b fs b' ∧
        ∀ u o, b'.calls.get? u = some (.publishing o) →
          ∃ b₂, b'.step? (.offer u) = some (b₂, [.refused u o.event]) ∧
            b₂.stats = { b'.stats with dropped := b'.stats.dropped + 1 }) ∧
    ((b.mayCall .dispatch = true → ∃ b', b.step? (.close .dispatch) =
        some (b', [.stopRaised .dispatch]) ∧ b'.mayCall .dispatch = true) ∧
      ∀ c, b.calls.get? .dispatch = some c → c.isClose = false) ∧
    ((∀ p ∈ offers es, p.1 ≠ .dispatch) →
      ∀ t c, b.calls.get? t = some c → c.isClose = true →
        ∃ l : Label κ, (l = .claim t ∨ l = .finish t ∨ l.isInside = true) ∧
          (b.step? l).isSome = true) := by
  have ha := answered_of_run h₀ h
  refine ⟨?_, ⟨step?_close_dispatch, ha.outside⟩, ?_⟩
  · intro t hasJoined hc ms b' fs hm
    exact rests_of_closed h hc hm
  · intro hp t c hc hi
    exact exists_step_of_isClose ha ((orderly_of_run h₀ h).1.pending_eq_nil hp) hc hi

/-- Two threads close.  The second one returns while the first still waits for the end of the
    dispatch thread. -/
def jointRun : List (Label Unit) :=
  [.close (.caller 0), .close (.caller 1), .takeStop, .claim (.caller 0), .claim (.caller 1),
    .proceed, .proceed, .proceed, .proceed, .finish (.caller 1)]

theorem rest_of_run_joint :
    ∃ b₀ b es b' fs, start 1 = .ok b₀ ∧ b₀.run? jointRun = some (b, es) ∧
      .closed (.caller 1) false ∈ es ∧
      b.run? [.publish (.caller 2) blankEvent, .offer (.caller 2)] = some (b', fs) ∧
      b'.isRunning = false ∧ told fs = [] ∧ b'.stats = { dropped := 1 } ∧
      b.calls.get? (.caller 0) = some .joining ∧
      ∃ l : Label Unit, (l = .claim (.caller 0) ∨ l = .finish (.caller 0) ∨ l.isInside = true) ∧
        (b.step? l).isSome = true := by
  obtain ⟨hrest, -, hgo⟩ := @rest_of_run Unit _ _ jointRun _ 1 rfl rfl
  obtain ⟨hn, hr, -⟩ := hrest (.caller 1) false (List.mem_of_getLast? rfl)
    [.publish (.caller 2) blankEvent, .offer (.caller 2)] _ _ rfl
  exact ⟨_, _, _, _, _, rfl, rfl, List.mem_of_getLast? rfl, rfl, hn, hr.told_eq, hr.stats_eq, rfl,
    hgo nofun (.caller 0) .joining rfl rfl⟩

end PlatformCore.Bus
