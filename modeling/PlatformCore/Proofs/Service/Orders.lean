/-
  A platform carries out orders as a service does tasks.

  A platform lets its stage settle after every order, with a limit to the steps.  The load of a
  stage at rest is small and an order adds little to it, so the limit does not matter: the stage
  comes to rest, and what the platform did is a run of its service.

  * `AtRest.load_post_lt` and `AtRest.load_close_lt`: the limit is not met;
  * `fst_perform`: what an order does to a platform;
  * `reaches_perform` and `reaches_shutdown`: one order is a run;
  * `reaches_after`: the orders of a day, with a shutdown in the end.
-/
import PlatformCore.Proofs.Service.Progress
import PlatformCore.Proofs.Session.Rejection

namespace PlatformCore

open Session Stage Service Bus

variable {b₀ : Bus Consumer} {g : Gateway} {b : BanList} {done ts : List Task} {n : Nat}
  {es : List (Entry Consumer)} {p : Platform} {t : Task} {o : Platform.Order}
  {os : List Platform.Order}

/-! ## The limit -/

theorem Gateway.length_events_le {v : Visit} : (g.serve b v).events.length ≤ 2 := by
  rw [Gateway.events_serve]
  rcases ht : v.isTurnedDown (g.serve b v) with _ | _
  · rw [Visit.alarms_eq_nil ht]
    exact Nat.zero_le 2
  · obtain ⟨client, login, ha⟩ := Visit.alarms_of_isTurnedDown ht
    rw [ha, rejectionEvents]
    split
    · exact Nat.le_refl 2
    · exact Nat.le_succ 1

theorem Task.length_perform_le : (t.perform g b).2.length ≤ 2 := by
  cases t with
  | visit v => exact Gateway.length_events_le
  | wait => exact Nat.zero_le 2
  | start | publish | shutdown => exact Nat.le_succ 1

namespace Stage

variable {s : Stage} {evs : List Event}

theorem AtRest.load_post_lt (h : s.AtRest) (he : evs.length ≤ 2) :
    (s.post main evs).load < patience := by
  have hl := h.load_le
  rw [load, h.unsent_eq, List.length_nil] at hl
  have hu : (s.post main evs).unsent = evs := by
    rw [unsent, post, Registry.get?_insert_self, Option.getD_some]
  rw [load, hu]
  change 10 * evs.length + s.bus.load s.reaction.acts.length < patience
  rw [patience]
  omega

theorem AtRest.load_close_lt (h : s.AtRest) {r : Stage × List Mark}
    (hr : s.step? (.close closer) = some r) : r.1.load < patience := by
  obtain ⟨b, fs, hb, rfl⟩ := exists_step_of_step? hr
  have hl := h.load_le
  have hc : b.load s.reaction.acts.length = s.bus.load s.reaction.acts.length + 2 := by
    cases moves_of_step? hb with
    | close hm =>
      have hs := Registry.sum_insert (r := s.bus.calls) (k := closer) (v := .closing) Call.load
      rw [h.calls_eq, show Call.closing.load = 2 from rfl] at hs
      simp only [Option.map_none, Option.getD_none, Nat.add_zero] at hs
      change (s.bus.calls.insert closer .closing).sum Call.load +
        s.bus.phase.load s.bus.queue.length s.reaction.acts.length = _
      rw [hs, Bus.load]
      omega
  change 10 * s.unsent.length + b.load s.reaction.acts.length < patience
  rw [hc, patience]
  rw [load] at hl
  omega

theorem AtRest.fst_perform_publish (h : s.AtRest) :
    (s.perform (.publish evs)).1 = (settleFrom [] patience (s.post main evs)).1 := by
  simp only [perform, carryOut, h.isHeld, Bool.false_eq_true, false_and, if_false, settleWith,
    settle]

theorem AtRest.fst_perform_close (h : s.AtRest) {r : Stage × List Mark}
    (hr : s.step? (.close closer) = some r) :
    (s.perform .close).1 = (settleFrom [] patience r.1).1 := by
  have hb : ∀ t, s.isBusy t = false := by
    intro t
    rw [isBusy, h.calls_eq]
    rfl
  simp only [perform, carryOut, hb, Bool.false_eq_true, or_self, if_false, stepAndSettle, hr,
    settleWith, settle]

end Stage

/-! ## Orders -/

namespace Platform

/-- A platform between two orders. -/
structure Idle (p : Platform) : Prop where
  atRest : p.stage.AtRest
  announces : p.desk.announces = true

/-- What an order but the shutdown does to a platform is what its task does. -/
theorem fst_perform (h : p.Idle) (ht : p.task? o = some t) (hd : t.door = .opened) :
    ofPlatform (p.perform o).1 =
        { ofPlatform p with
          bans := (t.perform p.desk.gateway p.desk.bans).1
          stage := (settleFrom [] patience
            (p.stage.post Stage.main (t.perform p.desk.gateway p.desk.bans).2)).1 } ∧
      (p.perform o).1.desk.announces = true := by
  have hcrowd : p.isCrowded = false := by
    rw [isCrowded, h.atRest.isHeld]
    rfl
  have hann := h.announces
  have hpub := fun evs => @AtRest.fst_perform_publish p.stage evs h.atRest
  cases o with
  | session q =>
    cases q with
    | login | logout | whoAmI | advance | setClock =>
      cases ht
      simp [perform, hcrowd, mayRaise, announce, ofPlatform, hpub, Desk.serve, Task.perform,
        Gateway.serve, Desk.replyResponse, Desk.reply, hann]
    | _ => cases ht
  | start =>
    cases ht
    simp [perform, ofPlatform, hpub, Task.perform, hann]
  | stage q =>
    cases q with
    | publish evs =>
      rcases evs with _ | ⟨e, _ | ⟨e', evs⟩⟩ <;> cases ht
      simp [perform, ofPlatform, hpub, Task.perform, hann]
    | _ => cases ht
  | shutdown =>
    cases ht
    cases hd

/-- **An order that is no shutdown** is a task of the service. -/
theorem reaches_perform (h₀ : Bus.start n = .ok b₀) (hc : Course b₀ g (ofPlatform p) done es)
    (h : p.Idle) (ht : p.task? o = some t) (hd : t.door = .opened) :
    (ofPlatform p).Reaches [t] (ofPlatform (p.perform o).1) ∧ (p.perform o).1.Idle := by
  obtain ⟨hp, ha⟩ := fst_perform h ht hd
  obtain ⟨hreach, hrest⟩ := hc.reaches_begin h₀ h.atRest rfl (t := t) (l := [])
    (h.atRest.load_post_lt Task.length_perform_le)
  rw [hd] at hreach
  rw [hp]
  refine ⟨hreach, ?_, ha⟩
  rwa [show (p.perform o).1.stage = (ofPlatform (p.perform o).1).stage from rfl, hp]

/-- **A shutdown** is a shutdown of the service, and returns. -/
theorem reaches_shutdown (h₀ : Bus.start n = .ok b₀) (hc : Course b₀ g (ofPlatform p) done es)
    (h : p.Idle) :
    ∃ v, (ofPlatform p).Reaches [.shutdown] v ∧ v.isDone = true ∧
      v.stage = (p.perform .shutdown).1.stage := by
  obtain ⟨hreach₁, hrest₁⟩ := hc.reaches_begin h₀ h.atRest rfl (t := .shutdown) (l := [])
    (h.atRest.load_post_lt Task.length_perform_le)
  obtain ⟨fs, hc₁⟩ := hc.reaches h₀ hreach₁
  obtain ⟨r, hr⟩ := hrest₁.exists_close
  obtain ⟨hreach₂, hrest₂⟩ := hc₁.reaches_close h₀ hrest₁ rfl hr (l := [])
    (hrest₁.load_close_lt hr)
  refine ⟨_, .trans hreach₁ hreach₂, Course.isDone_of_atRest hrest₂ rfl, ?_⟩
  have hstage : (p.perform .shutdown).1.stage =
      ((p.stage.perform (.publish [.platformShutdown component])).1.perform .close).1 := by
    simp only [perform, h.atRest.isHeld, Bool.false_eq_true, if_false]
  rw [hstage, h.atRest.fst_perform_publish]
  exact (hrest₁.fst_perform_close hr).symm

/-- **The orders of a day**, with a shutdown in the end, are tasks of the service. -/
theorem reaches_after (h₀ : Bus.start n = .ok b₀) (hc : Course b₀ g (ofPlatform p) done es)
    (h : p.Idle) (ht : p.tasks? os = some ts) (hd : ∀ t ∈ ts, t.door = .opened) :
    ∃ v, (ofPlatform p).Reaches (ts ++ [.shutdown]) v ∧ v.isDone = true ∧
      v.stage = ((p.after os).perform .shutdown).1.stage := by
  induction os generalizing p done ts es with
  | nil =>
    cases ht
    exact reaches_shutdown h₀ hc h
  | cons o os ih =>
    simp only [tasks?, Option.bind_eq_bind, Option.bind_eq_some_iff, Option.pure_def,
      Option.some.injEq] at ht
    obtain ⟨t, ho, us, hos, rfl⟩ := ht
    obtain ⟨hd', hds⟩ := List.forall_mem_cons.1 hd
    obtain ⟨hreach, hidle⟩ := reaches_perform h₀ hc h ho hd'
    obtain ⟨fs, hc'⟩ := hc.reaches h₀ hreach
    obtain ⟨v, hv, hdone, hstage⟩ := ih hc' hidle hos hds
    exact ⟨v, hreach.trans hv, hdone, hstage⟩

end Platform

end PlatformCore
