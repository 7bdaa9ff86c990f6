/-
  Nothing gets stuck.

  Every step that a stage makes by itself takes something off its load, so it comes to rest.  When
  it rests nobody has a call that has not returned, the main thread has published all that it had
  to, and the dispatch thread waits with an empty queue or has ended.

  * `Stage.load` is the measure, and `load_of_next?` says that it decreases;
  * `Stage.AtRest` is what holds of a stage at rest, and `Course.atRest` says when it is;
  * `Course.reaches_settleFrom`: a service whose stage settles makes moves;
  * `Course.exists_run_to_end`: from wherever a run has come, all tasks that are left can be done,
    and the shutdown returns.
-/
import PlatformCore.Proofs.Service.Course

namespace PlatformCore

open Stage

/-! ## The load -/

namespace Bus

variable {κ : Type} {b b' : Bus κ} {l : Label κ} {fs : List (Entry κ)} {t : Thread} {a a' n : Nat}
  {p : Phase κ}

/-- What is ahead of the dispatch thread, if `n` events wait and the consumer at work is still to do
    `a` things. -/
def Phase.load (n a : Nat) : Phase κ → Nat
  | selecting => 7 * n + 6
  | draining => 7 * n + 5
  | delivering d => 7 * n + 4 * d.pending.length + 7
  | handling d _ => 7 * n + 4 * d.pending.length + 9 + a
  | leaving => 4
  | stopped => 3
  | detached => 2
  | released => 1
  | gone => 0

def Call.load : Call → Nat
  | publishing o => if o.hasWaited then 8 else 9
  | closing => 2
  | _ => 1

def load (b : Bus κ) (a : Nat) : Nat := b.calls.sum Call.load + b.phase.load b.queue.length a

theorem Phase.load_succ_le : p.load (n + 1) a ≤ p.load n a + 7 := by
  cases p <;> simp only [load] <;> omega

theorem Call.lt_load_publishing {o : Offer} : 7 < (Call.publishing o).load := by
  rw [load]
  split <;> decide

theorem sum_insert_of_get? {calls : Registry Thread Call} {c d : Call}
    (h : calls.get? t = some c) :
    (calls.insert t d).sum Call.load + c.load = calls.sum Call.load + d.load := by
  have hs := Registry.sum_insert (r := calls) (k := t) (v := d) Call.load
  rwa [h] at hs

theorem sum_erase_of_get? {calls : Registry Thread Call} {c : Call} (h : calls.get? t = some c) :
    (calls.erase t).sum Call.load + c.load = calls.sum Call.load := by
  have hs := Registry.sum_erase (r := calls) (k := t) Call.load
  rwa [h] at hs

theorem load_of_publish {e : Event} (h : Moves b (.publish t e) b' fs) :
    b'.load a = b.load a + 9 := by
  cases h with
  | publish hm =>
    have hs := Registry.sum_insert (r := b.calls) (k := t) (v := .publishing ⟨e, false⟩) Call.load
    rw [get?_of_mayCall hm] at hs
    simp only [Option.map_none, Option.getD_none, Nat.add_zero] at hs
    simp only [load, hs]
    rw [show (Call.publishing ⟨e, false⟩).load = 9 from rfl]
    omega

theorem load_of_offer (h : Moves b (.offer t) b' fs)
    (hw : ∀ o, b.calls.get? t = some (.publishing o) → b.answer = .timedOut →
      o.hasWaited = false) : b'.load a < b.load a := by
  cases h with
  | @accept _ o hc ha hq =>
    have hs := sum_erase_of_get? hc
    have hl := Call.lt_load_publishing (o := o)
    have hp := b.phase.load_succ_le (n := b.queue.length) (a := a)
    simp only [load, List.length_append, List.length_singleton]
    omega
  | @stall _ o hc ha hq =>
    have hno : o.hasWaited = false := hw o hc (answer_eq_timedOut_iff.2 ⟨ha, hq⟩)
    have hs := sum_insert_of_get? (d := .publishing { o with hasWaited := true }) hc
    rw [show (Call.publishing o).load = 9 by simp [Call.load, hno],
      show (Call.publishing { o with hasWaited := true }).load = 8 from rfl] at hs
    simp only [load]
    omega
  | @refuse _ o hc ha =>
    have hs := sum_erase_of_get? hc
    have hl := Call.lt_load_publishing (o := o)
    simp only [load]
    omega

theorem load_of_goOn (h : Moves b l b' fs) (hl : l = .claim t ∨ l = .finish t) :
    b'.load a < b.load a := by
  cases h with
  | claim hc =>
    have hs := sum_insert_of_get? (d := if b.hasHandle then .joining else .awaiting) hc
    rw [show (if b.hasHandle then Call.joining else .awaiting).load = 1 by split <;> rfl,
      show Call.closing.load = 2 from rfl] at hs
    simp only [load]
    omega
  | @finish _ j hc hp =>
    have hs := sum_erase_of_get? hc
    rw [show (if j then Call.joining else .awaiting).load = 1 by split <;> rfl] at hs
    simp only [load]
    omega
  | _ => rcases hl with hl | hl <;> cases hl

/-- What the dispatch thread does takes off the load, if no event concerns more than one consumer,
    and a consumer that is told has no more than one thing to do. -/
theorem load_of_isInside (h : Moves b l b' fs) (hl : l.isInside = true)
    (ht : ∀ e, (b.table.matching e).length ≤ 1) (ha : a' ≤ 1)
    (he : ∀ o, l = .endWork o → a = 0) : b'.load a' < b.load a := by
  cases h with
  | @takeEvent e rest hp hq | @drain e rest hp hq =>
    have := ht e
    simp only [load, begin, hp, hq, Phase.load, List.length_cons]
    omega
  | takeStop hp _ => simp only [load, hp, Phase.load]; omega
  | leave hp hq => simp only [load, hp, hq, Phase.load, List.length_nil]; omega
  | tell hp hd => simp only [load, hp, hd, Phase.load, List.length_cons]; omega
  | @complete d hp hd =>
    have hn : d.next.load b.queue.length a' ≤ 7 * b.queue.length + 6 := by
      simp only [Delivery.next]
      split
      · simp only [Phase.load]; omega
      · split <;> simp only [Phase.load] <;> omega
    have hd' : b.phase.load b.queue.length a = 7 * b.queue.length + 7 := by
      rw [hp, Phase.load, hd, List.length_nil]
    simp only [load, hd']
    omega
  | stop hp | detach hp | release hp | vanish hp => simp only [load, hp, Phase.load]; omega
  | endWork hp _ =>
    rw [he _ rfl]
    simp only [load, hp, Phase.load]
    omega
  | _ => cases hl

end Bus

/-! ## A stage comes to rest -/

namespace Stage

open Bus

def load (s : Stage) : Nat := 10 * s.unsent.length + s.bus.load s.reaction.acts.length

variable {s s' : Stage} {t : Thread} {marks : List Mark} {b₀ b : Bus Consumer}
  {es fs : List (Entry Consumer)} {n : Nat} {l : Label Consumer}

theorem Watched.length_matching_le (h₀ : Bus.start n = .ok b₀) (h : Watched b₀ s es) (e : Event) :
    (s.bus.table.matching e).length ≤ 1 := by
  obtain ⟨hn, rfl⟩ := start_eq_ok h₀
  obtain ⟨ls, hr⟩ := h.run
  have ht : s.bus.table = watchTable := by
    rw [(delivers_of_run hr).table_eq, h.registrations_eq]
    rfl
  rw [ht, matching_watches]
  exact Option.length_toList_le

theorem load_of_send? (h : Watched b₀ s es) (hs : send? t s = some (s', marks)) :
    s'.load < s.load := by
  simp only [send?] at hs
  split at hs
  · next o hc =>
    split at hs
    · cases hs
    · next ha =>
      obtain ⟨b, fs, hb, he⟩ := exists_step_of_step? hs
      cases he
      have hlt := load_of_offer (a := s.reaction.acts.length) (moves_of_step? hb)
        fun _ _ hto => absurd hto ha
      simp only [load, unsent]
      omega
  · next e rest hc ho =>
    obtain ⟨b, fs, hb, he⟩ := exists_step_of_step? hs
    cases he
    have ht : t = main := by
      by_contra hne
      have hnil := h.outbox_eq t hne
      rw [ho] at hnil
      cases hnil
    subst ht
    have heq := load_of_publish (a := s.reaction.acts.length) (moves_of_step? hb)
    simp only [load, unsent, ho, Registry.get?_insert_self, Option.getD_some, List.length_cons] at *
    omega
  · cases hs

theorem load_of_stall? (hs : stall? t s = some (s', marks)) : s'.load < s.load := by
  simp only [stall?] at hs
  split at hs
  · next o hc =>
    split at hs
    · cases hs
    · next hw =>
      obtain ⟨b, fs, hb, he⟩ := exists_step_of_step? hs
      cases he
      have hlt := load_of_offer (a := s.reaction.acts.length) (moves_of_step? hb) fun o' ho' _ => by
        cases hc.symm.trans ho'
        exact Bool.eq_false_iff.2 hw
      simp only [load, unsent]
      omega
  · cases hs

theorem load_of_inside (h₀ : Bus.start n = .ok b₀) (h : Watched b₀ s es)
    (hb : s.bus.step? l = some (b, fs)) (hl : l.isInside = true)
    (he : ∀ o, l = .endWork o → s.reaction.acts.length = 0) {a : Nat} (ha : a ≤ 1) :
    b.load a < s.bus.load s.reaction.acts.length :=
  load_of_isInside (moves_of_step? hb) hl (h.length_matching_le h₀) ha he

theorem unsent_react : s.react.unsent = s.unsent := by
  rw [react]
  split <;> rfl

theorem load_of_work? (h₀ : Bus.start n = .ok b₀) (h : Watched b₀ s es)
    (hp : s.bus.phase.isHandling = true) (hs : s.work? = some (s', marks)) : s'.load < s.load := by
  simp only [work?] at hs
  split at hs
  · next hnil =>
    obtain ⟨b, fs, hb, he⟩ := exists_step_of_step? hs
    cases he
    have hlt := load_of_inside h₀ h hb rfl (fun _ _ => by rw [hnil]; rfl) h.calm.length_le
    simp only [load, unsent]
    omega
  · next a acts ha =>
    obtain ⟨r, rfl⟩ := h.calm.acts_eq a (ha ▸ List.mem_cons_self)
    cases hs
    simp only [load, unsent, ha, List.length_cons, Bus.load]
    rcases hph : s.bus.phase with _ | _ | _ | _ | _ | _ | _ | _ | _ <;> rw [hph] at hp
    case handling => simp only [Phase.load]; omega
    all_goals cases hp

theorem load_of_dispatch? (h₀ : Bus.start n = .ok b₀) (h : Watched b₀ s es)
    (h' : Watched b₀ s' (es ++ entries marks)) (hs : s.dispatch? = some (s', marks)) :
    s'.load < s.load := by
  simp only [dispatch?] at hs
  split at hs
  · rcases Option.or_eq_some_iff.1 hs with hs | ⟨-, hs⟩
    · exact load_of_send? h hs
    · exact load_of_stall? hs
  · next hp => exact load_of_work? h₀ h (by rw [hp]; rfl) hs
  · rcases Option.or_eq_some_iff.1 hs with hs | ⟨-, hs⟩ <;>
    · obtain ⟨b, fs, hb, he⟩ := exists_step_of_step? hs
      cases he
      have hlt := load_of_inside h₀ h hb rfl (fun _ ho => by cases ho) h'.calm.length_le
      simp only [load, unsent] at *
      omega
  · obtain ⟨r, hr, he⟩ := Option.map_eq_some_iff.1 hs
    obtain ⟨b, fs, hb, rfl⟩ := exists_step_of_step? hr
    cases he
    have hlt := load_of_inside h₀ h hb rfl (fun _ ho => by cases ho) h'.calm.length_le
    rw [load, load, unsent_react, bus_react]
    change 10 * s.unsent.length + b.load _ < _
    omega

theorem load_of_goOn? (hs : goOn? t s = some (s', marks)) : s'.load < s.load := by
  rcases Option.or_eq_some_iff.1 hs with hs | ⟨-, hs⟩ <;>
  · obtain ⟨b, fs, hb, he⟩ := exists_step_of_step? hs
    cases he
    have hlt := load_of_goOn (t := t) (a := s.reaction.acts.length) (moves_of_step? hb) (by simp)
    simp only [load, unsent]
    omega

/-- **What a stage does by itself** takes off its load. -/
theorem load_of_next? (h₀ : Bus.start n = .ok b₀) (h : Watched b₀ s es)
    (hs : s.next? = some (s', marks)) : s'.load < s.load := by
  obtain ⟨u, hu⟩ := exists_turn_of_next? hs
  obtain ⟨h', -⟩ := watched_of_goes h₀ h (goes_of_turn? h.calm hu)
  simp only [next?, Option.or_eq_some_iff] at hs
  rcases hs with hs | ⟨-, hs | ⟨-, hs | ⟨-, hs | ⟨-, hs | ⟨-, hs⟩⟩⟩⟩⟩
  · exact load_of_send? h hs
  · exact load_of_send? h hs
  · exact load_of_dispatch? h₀ h h' hs
  · exact load_of_stall? hs
  · exact load_of_stall? hs
  · exact load_of_goOn? hs

/-! ## A stage at rest -/

/-- Nobody has anything to do. -/
structure AtRest (s : Stage) : Prop where
  calls_eq : ∀ t, s.bus.calls.get? t = none
  unsent_eq : s.unsent = []
  phase_eq : s.bus.phase = .selecting ∧ s.bus.queue = [] ∨ s.bus.phase = .gone

theorem AtRest.isFree (h : s.AtRest) : s.isFree main = true := by
  have hu := h.unsent_eq
  rw [unsent] at hu
  rw [Stage.isFree, isBusy, h.calls_eq, hu]
  rfl

theorem AtRest.isHeld (h : s.AtRest) : s.isHeld = false := by
  rw [Stage.isHeld]
  rcases h.phase_eq with ⟨hp, -⟩ | hp <;> rw [hp] <;> rfl

theorem AtRest.load_le (h : s.AtRest) : s.load ≤ 6 := by
  rw [load, Bus.load, h.unsent_eq, Registry.sum_eq_zero h.calls_eq]
  rcases h.phase_eq with ⟨hp, hq⟩ | hp
  · rw [hp, hq]
    exact Nat.le_refl 6
  · rw [hp]
    exact Nat.zero_le 6

theorem AtRest.exists_close (h : s.AtRest) : ∃ r, s.step? (.close closer) = some r := by
  have hm : s.bus.mayCall closer = true := by
    rw [mayCall, h.calls_eq]
    rfl
  simp only [Stage.step?, Bus.step?, close?, hm, if_true]
  exact ⟨_, rfl⟩

theorem step?_eq_none (h : s.step? l = none) : s.bus.step? l = none := Option.map_eq_none_iff.1 h

theorem phase_of_dispatch?_eq_none (hc : s.bus.calls.get? .dispatch = none)
    (hr : s.reaction.Calm) (h : s.dispatch? = none) :
    s.bus.phase = .selecting ∧ s.bus.queue = [] ∧ s.bus.isStopRaised = false ∨
      s.bus.phase = .gone := by
  rcases hp : s.bus.phase with _ | _ | ⟨e, w, _ | ⟨c, cs⟩⟩ | ⟨d, c⟩ | _ | _ | _ | _ | _ <;>
    simp only [dispatch?, hc, hp] at h
  case selecting =>
    obtain ⟨h₁, h₂⟩ := Option.or_eq_none_iff.1 h
    have h₁ := step?_eq_none h₁
    have h₂ := step?_eq_none h₂
    refine .inl ⟨rfl, ?_, ?_⟩
    · rcases hq : s.bus.queue with _ | ⟨e, rest⟩
      · rfl
      · simp [Bus.step?, takeEvent?, hp, hq] at h₁
    · rcases hs : s.bus.isStopRaised with _ | _
      · rfl
      · simp [Bus.step?, takeStop?, hp, hs] at h₂
  case handling =>
    simp only [work?] at h
    split at h
    · have h := step?_eq_none h
      simp [Bus.step?, endWork?, hp, hc] at h
    · next a acts ha =>
      obtain ⟨r, rfl⟩ := hr.acts_eq a (ha ▸ List.mem_cons_self)
      cases h
  case gone => exact .inr rfl
  case draining =>
    have h := step?_eq_none (Option.map_eq_none_iff.1 h)
    rcases hq : s.bus.queue with _ | ⟨e, rest⟩ <;> simp [Bus.step?, proceed?, hp, hq] at h
  all_goals
    have h := step?_eq_none (Option.map_eq_none_iff.1 h)
    simp [Bus.step?, proceed?, hp] at h

theorem unsent_of_send?_eq_none (hc : s.bus.calls.get? main = none) (h : send? main s = none) :
    s.unsent = [] := by
  rw [unsent]
  rcases hout : s.outbox.get? main with _ | _ | ⟨e, rest⟩
  · rfl
  · rfl
  · simp only [send?, hc, hout] at h
    have hm : s.bus.mayCall main = true := by
      rw [mayCall, hc]
      rfl
    have hn := step?_eq_none h
    simp [Bus.step?, publish?, hm] at hn

theorem answer_ne_timedOut (h : b.phase = .selecting ∧ b.queue = [] ∨ b.phase = .gone) :
    b.answer ≠ .timedOut := by
  intro hans
  obtain ⟨ha, hle⟩ := answer_eq_timedOut_iff.1 hans
  rcases h with ⟨-, hq⟩ | hp
  · rw [hq] at hle
    exact Nat.not_le_of_lt b.capacity_pos hle
  · rw [hp] at ha
    cases ha

theorem send?_ne_none {o : Offer} (hc : s.bus.calls.get? t = some (.publishing o))
    (ha : s.bus.answer ≠ .timedOut) : send? t s ≠ none := by
  intro h
  simp only [send?, hc, ha, if_false] at h
  have hn := step?_eq_none h
  simp [Bus.step?, offer?, hc] at hn

theorem goOn?_ne_none {c : Call} (hp : s.bus.phase = .gone) (hc : s.bus.calls.get? t = some c)
    (hi : c.isClose = true) : goOn? t s ≠ none := by
  intro h
  obtain ⟨h₁, h₂⟩ := Option.or_eq_none_iff.1 h
  obtain ⟨l, hl, hsome⟩ := exists_step_of_isGone (by rw [hp]; rfl) hc hi
  rcases hl with rfl | rfl
  · rw [step?_eq_none h₁] at hsome
    cases hsome
  · rw [step?_eq_none h₂] at hsome
    cases hsome

end Stage

/-! ## The service at rest -/

namespace Service

open Bus

variable {b₀ : Bus Consumer} {g : Session.Gateway} {s s' : Service} {done ts : List Task} {n : Nat}
  {es : List (Entry Consumer)} {marks : List Mark} {m : Move} {ms : List Move}

namespace Course

theorem fst_of_mem_offers (h : Course b₀ g s done es) : ∀ p ∈ offers es, p.1 = Stage.main := by
  intro p hp
  have hm : p ∈ offers es ++ s.stage.unsent.map (Stage.main, ·) := List.mem_append_left _ hp
  rw [h.offers_eq] at hm
  obtain ⟨e, -, rfl⟩ := List.mem_map.1 hm
  rfl

theorem pending_eq_nil {t : Thread} (h₀ : Bus.start n = .ok b₀) (h : Course b₀ g s done es)
    (ht : t ≠ Stage.main) : pending s.stage.bus.calls t = [] := by
  obtain ⟨ls, hr⟩ := h.watched.run
  refine (orderly_of_run h₀ hr).1.pending_eq_nil fun p hp he => ht ?_
  rw [← he, h.fst_of_mem_offers p hp]

/-- **A stage that has no step left is at rest.** -/
theorem atRest (h₀ : Bus.start n = .ok b₀) (h : Course b₀ g s done es)
    (hn : s.stage.next? = none) : s.stage.AtRest := by
  obtain ⟨ls, hr⟩ := h.watched.run
  have ha := answered_of_run h₀ hr
  have hdis := get?_dispatch_eq_none ha (h.pending_eq_nil h₀ nofun)
  simp only [next?, Option.or_eq_none_iff] at hn
  obtain ⟨hmain, -, hd, -, -, hclo⟩ := hn
  have hphase := phase_of_dispatch?_eq_none hdis h.watched.calm hd
  have hidle : s.stage.bus.phase = .selecting ∧ s.stage.bus.queue = [] ∨
      s.stage.bus.phase = .gone := hphase.imp_left fun hp => ⟨hp.1, hp.2.1⟩
  have hcalls : ∀ t, s.stage.bus.calls.get? t = none := by
    intro t
    rcases hc : s.stage.bus.calls.get? t with _ | c
    · rfl
    exfalso
    rcases hi : c.isClose with _ | _
    · -- it is a publish call of the main thread, and would be answered
      obtain ⟨o, rfl⟩ : ∃ o, c = .publishing o := by
        cases c with
        | publishing o => exact ⟨o, rfl⟩
        | _ => cases hi
      have ht : t = Stage.main := by
        by_contra hne
        have hp := h.pending_eq_nil h₀ hne
        rw [pending_of_get? hc] at hp
        cases hp
      exact send?_ne_none hc (answer_ne_timedOut hidle) (ht ▸ hmain)
    · -- it is the call of the closer, and the dispatch thread has seen the stop signal
      obtain ⟨rfl, -⟩ := h.closer_of_isClose t c hc hi
      rcases hphase with ⟨hp, hq, hstop⟩ | hp
      · have hsig := ha.signalled closer c hc hi
        simp [Signalled, hp, hstop, Phase.isDraining, Phase.isLooping] at hsig
      · exact goOn?_ne_none hp hc hi hclo
  exact ⟨hcalls, unsent_of_send?_eq_none (hcalls Stage.main) hmain, hidle⟩

/-! ## Nothing gets stuck -/

/-- **A service whose stage settles** makes moves, and its stage comes to rest. -/
theorem reaches_settleFrom (h₀ : Bus.start n = .ok b₀) (h : Course b₀ g s done es)
    {l : List Mark} {k : Nat} (hk : s.stage.load < k) :
    s.Reaches [] { s with stage := (settleFrom l k s.stage).1 } ∧
      (settleFrom l k s.stage).1.AtRest := by
  induction k generalizing s es l with
  | zero => exact absurd hk (Nat.not_lt_zero _)
  | succ k ih =>
    rw [settleFrom]
    rcases hn : s.stage.next? with _ | r
    · exact ⟨.refl, h.atRest h₀ hn⟩
    · obtain ⟨u, hu⟩ := exists_turn_of_next? hn
      have hlt := load_of_next? h₀ h.watched hn
      have hm : s.move? (.turn u) = some ({ s with stage := r.1 }, r.2) := by rw [move?, hu]; rfl
      obtain ⟨hreach, hrest⟩ := ih (h.turn h₀ hu) (l := r.2.reverse ++ l)
        (Nat.lt_of_lt_of_le hlt (Nat.le_of_lt_succ hk))
      exact ⟨.trans (.of_move? hm) hreach, hrest⟩

theorem reaches_begin (h₀ : Bus.start n = .ok b₀) (h : Course b₀ g s done es)
    (hr : s.stage.AtRest) (hd : s.door = .opened) {t : Task} {l : List Mark} {k : Nat}
    (hk : (s.stage.post Stage.main (t.perform s.gateway s.bans).2).load < k) :
    s.Reaches [t]
        { s with
          bans := (t.perform s.gateway s.bans).1
          stage := (settleFrom l k (s.stage.post Stage.main (t.perform s.gateway s.bans).2)).1
          door := t.door } ∧
      (settleFrom l k (s.stage.post Stage.main (t.perform s.gateway s.bans).2)).1.AtRest := by
  obtain ⟨hreach, hrest⟩ := (h.begin hr.isFree hd t).reaches_settleFrom h₀ (l := l) hk
  have hm : s.move? (.begin t) = some ({ s with
      bans := (t.perform s.gateway s.bans).1
      stage := s.stage.post Stage.main (t.perform s.gateway s.bans).2
      door := t.door }, []) := by
    rw [move?, if_pos ⟨hd, hr.isFree⟩]
  exact ⟨.trans (.of_move? hm) hreach, hrest⟩

theorem reaches_close (h₀ : Bus.start n = .ok b₀) (h : Course b₀ g s done es)
    (hr : s.stage.AtRest) (hd : s.door = .closing) {r : Stage × List Mark}
    (hs : s.stage.step? (.close closer) = some r) {l : List Mark} {k : Nat}
    (hk : r.1.load < k) :
    s.Reaches [] { s with stage := (settleFrom l k r.1).1, door := .closed } ∧
      (settleFrom l k r.1).1.AtRest := by
  obtain ⟨hreach, hrest⟩ :=
    (h.close h₀ hr.isFree hd hs).reaches_settleFrom h₀ (l := l) hk
  have hm : s.move? .close = some ({ s with stage := r.1, door := .closed }, r.2) := by
    rw [move?, if_pos ⟨hd, hr.isFree⟩, hs]
    rfl
  exact ⟨.trans (.of_move? hm) hreach, hrest⟩

theorem exists_rest (h₀ : Bus.start n = .ok b₀) (h : Course b₀ g s done es) :
    ∃ s', s.Reaches [] s' ∧ s'.stage.AtRest ∧ s'.door = s.door := by
  obtain ⟨hreach, hrest⟩ := h.reaches_settleFrom h₀ (l := []) (Nat.lt_succ_self _)
  exact ⟨_, hreach, hrest, rfl⟩

/-- All tasks but the shutdown can be done, one after the other. -/
theorem exists_reaches (h₀ : Bus.start n = .ok b₀) (h : Course b₀ g s done es)
    (hr : s.stage.AtRest) (hd : s.door = .opened) (ht : ∀ t ∈ ts, t.door = .opened) :
    ∃ s', s.Reaches ts s' ∧ s'.stage.AtRest ∧ s'.door = .opened := by
  induction ts generalizing s done es with
  | nil => exact ⟨s, .refl, hr, hd⟩
  | cons t ts ih =>
    obtain ⟨hd', hts⟩ := List.forall_mem_cons.1 ht
    obtain ⟨hreach, hrest⟩ := h.reaches_begin h₀ hr hd (t := t) (l := []) (Nat.lt_succ_self _)
    obtain ⟨fs, h'⟩ := h.reaches h₀ hreach
    obtain ⟨s', hreach', hrest', hopen⟩ := ih h' hrest hd' hts
    exact ⟨s', .trans hreach hreach', hrest', hopen⟩

theorem isDone_of_atRest (hr : s.stage.AtRest) (hd : s.door = .closed) : s.isDone = true := by
  rw [isDone, isBusy, hr.calls_eq, hd]
  rfl

theorem exists_reaches_isDone (h₀ : Bus.start n = .ok b₀) (h : Course b₀ g s done es)
    (hd : s.door ≠ .opened) : ∃ s', s.Reaches [] s' ∧ s'.isDone = true := by
  obtain ⟨s₁, hreach, hrest, hdoor⟩ := h.exists_rest h₀
  obtain ⟨fs, h₁⟩ := h.reaches h₀ hreach
  rcases hs : s.door with _ | _ | _
  · exact absurd hs hd
  · obtain ⟨r, hc⟩ := hrest.exists_close
    obtain ⟨hreach', hrest'⟩ :=
      h₁.reaches_close h₀ hrest (hdoor.trans hs) hc (l := []) (Nat.lt_succ_self _)
    exact ⟨_, .trans hreach hreach', isDone_of_atRest hrest' rfl⟩
  · exact ⟨s₁, hreach, isDone_of_atRest hrest (hdoor.trans hs)⟩

/-- **From wherever a run has come**, what is left of some tasks and a shutdown can be done. -/
theorem exists_run_to_end (h₀ : Bus.start n = .ok b₀) (h : Course b₀ g s done es)
    (hp : done <+: ts ++ [.shutdown]) (ht : ∀ t ∈ ts, t.door = .opened) :
    ∃ us s', s.Reaches us s' ∧ done ++ us = ts ++ [.shutdown] ∧ s'.isDone = true := by
  rcases List.prefix_concat_iff.1 hp with rfl | ⟨us, rfl⟩
  · have hd : s.door ≠ .opened := by
      intro hd
      have := h.opened_iff.1 hd .shutdown (by simp)
      cases this
    obtain ⟨s', hreach, hdone⟩ := h.exists_reaches_isDone h₀ hd
    exact ⟨[], s', hreach, List.append_nil _, hdone⟩
  · obtain ⟨hdone, hus⟩ := List.forall_mem_append.1 ht
    obtain ⟨s₁, hreach₁, hrest₁, hd₁⟩ := h.exists_rest h₀
    obtain ⟨es₁, h₁⟩ := h.reaches h₀ hreach₁
    obtain ⟨s₂, hreach₂, hrest₂, hd₂⟩ :=
      h₁.exists_reaches h₀ hrest₁ (hd₁.trans (h.opened_iff.2 hdone)) hus
    obtain ⟨es₂, h₂⟩ := h₁.reaches h₀ hreach₂
    obtain ⟨hreach₃, -⟩ :=
      h₂.reaches_begin h₀ hrest₂ hd₂ (t := .shutdown) (l := []) (Nat.lt_succ_self _)
    obtain ⟨es₃, h₃⟩ := h₂.reaches h₀ hreach₃
    obtain ⟨s', hreach₄, hend⟩ := h₃.exists_reaches_isDone h₀ nofun
    refine ⟨us ++ [.shutdown], s', ?_, (List.append_assoc _ _ _).symm, hend⟩
    have hall := ((hreach₁.trans hreach₂).trans hreach₃).trans hreach₄
    rwa [List.nil_append, List.append_nil] at hall

end Course

end Service

end PlatformCore
