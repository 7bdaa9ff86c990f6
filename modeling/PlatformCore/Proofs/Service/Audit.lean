/-
  What the watchers have counted when the platform has shut down.

  All that the main thread published was dispatched, and nothing else: its last event is the one
  that ends all delivery, and it closes the bus only after that.  So what the watchers know is what
  the events of the tasks come to.

  * `Task.IsOrdinary`: the tasks that may come before the shutdown;
  * `filter_isSecurity_performAll`: of the events of tasks, those that tell of failed logins and
    bans are those that announce the visits;
  * `Audited` is what is known in the end;
  * `Course.dispatched_eq` and `Course.company_eq`: what was dispatched, and what came of it;
  * `audited_of_assemble`: all of this of a platform that was put together.
-/
import PlatformCore.Proofs.Service.Orders
import PlatformCore.Settings.Validity

namespace PlatformCore

open Session

/-! ## Tasks -/

namespace Task

/-- A task that may come before the shutdown.  The events that it publishes itself are of none of
    the kinds that are watched. -/
def IsOrdinary : Task → Prop
  | publish e => e.kind ≠ .platformStarted ∧ e.kind ≠ .platformShutdown ∧
      e.kind ≠ .loginFailed ∧ e.kind ≠ .clientBanned
  | shutdown => False
  | _ => True

def isStart : Task → Bool
  | start => true
  | _ => false

def visit? : Task → Option Visit
  | visit v => some v
  | _ => none

/-- The visits among tasks, each with what came of it. -/
def outcomes (g : Gateway) (b : BanList) (ts : List Task) : List (Visit × Outcome) :=
  (g.serveAll b (ts.filterMap visit?)).2

/-- The events that announce the visits among tasks. -/
def alarms (g : Gateway) (b : BanList) (ts : List Task) : List Event :=
  (outcomes g b ts).flatMap fun x => x.1.alarms x.2

variable {g : Gateway} {b : BanList} {t : Task} {ts : List Task}

theorem IsOrdinary.door_eq (h : t.IsOrdinary) : t.door = .opened := by
  cases t with
  | shutdown => cases h
  | _ => rfl

/-- **What tasks tell of failed logins and bans** are the announcements of their visits. -/
theorem filter_isSecurity_performAll (h : ∀ t ∈ ts, t.IsOrdinary) :
    (performAll g b ts).2.filter (·.isSecurity) = alarms g b ts := by
  induction ts generalizing b with
  | nil => rfl
  | cons t ts ih =>
    obtain ⟨ht, hts⟩ := List.forall_mem_cons.1 h
    rw [performAll, List.filter_append, ih hts]
    cases t with
    | visit v =>
      have ha : alarms g b (visit v :: ts) =
          v.alarms (g.serve b v) ++ alarms g (g.serve b v).bans ts := rfl
      rw [ha, perform, Gateway.events_serve, List.filter_eq_self.2]
      intro e he
      exact decide_eq_true (Visit.kind_of_mem_alarms he)
    | wait | start => rfl
    | publish e =>
      have hs : ¬ e.isSecurity = true := by simp [Event.isSecurity, ht.2.2.1, ht.2.2.2]
      rw [perform, List.filter_cons_of_neg hs]
      rfl
    | shutdown => cases ht

theorem countP_performAll (h : ∀ t ∈ ts, t.IsOrdinary) :
    (performAll g b ts).2.countP (·.kind = .platformStarted) = ts.countP isStart ∧
      ∀ e ∈ (performAll g b ts).2, e.kind ≠ .platformShutdown := by
  induction ts generalizing b with
  | nil => exact ⟨rfl, List.forall_mem_nil _⟩
  | cons t ts ih =>
    obtain ⟨ht, hts⟩ := List.forall_mem_cons.1 h
    obtain ⟨hc, hn⟩ := ih hts (b := (t.perform g b).1)
    rw [performAll, List.countP_append, hc, List.countP_cons, List.forall_mem_append, Nat.add_comm]
    refine ⟨congrArg (ts.countP isStart + ·) ?_, ?_, hn⟩
    · cases t with
      | visit v =>
        rw [perform, Gateway.events_serve, List.countP_eq_zero.2]
        · rfl
        · intro e he
          rcases Visit.kind_of_mem_alarms he with hk | hk <;> rw [hk] <;> decide
      | wait | start => rfl
      | publish e => simp [perform, isStart, ht.1]
      | shutdown => cases ht
    · cases t with
      | visit v =>
        rw [perform, Gateway.events_serve]
        intro e he
        rcases Visit.kind_of_mem_alarms he with hk | hk <;> rw [hk] <;> decide
      | wait => exact List.forall_mem_nil _
      | start => simp +decide [perform, Event.platformStarted]
      | publish e => simpa [perform] using ht.2.1
      | shutdown => cases ht

theorem countP_isBan_mul_le :
    (outcomes g {} ts).countP (fun x => x.1.isBan x.2) * g.settings.maxLoginFailure.toNat ≤
      (outcomes g {} ts).countP fun x => x.1.isTurnedDown x.2 := by
  have hle := @Gateway.threshold_mul_countP_isBan_le {} g (ts.filterMap visit?) .empty
  have hth : g.settings.maxLoginFailure.toNat ≤ g.settings.threshold := Nat.le_max_right _ _
  calc (outcomes g {} ts).countP (fun x => x.1.isBan x.2) * g.settings.maxLoginFailure.toNat
      ≤ (outcomes g {} ts).countP (fun x => x.1.isBan x.2) * g.settings.threshold :=
        Nat.mul_le_mul_left _ hth
    _ = g.settings.threshold * (outcomes g {} ts).countP (fun x => x.1.isBan x.2) :=
        Nat.mul_comm _ _
    _ ≤ (outcomes g {} ts).countP fun x => x.1.isTurnedDown x.2 := by
        rw [show ({} : BanList).unspent = 0 from rfl, Nat.add_zero] at hle
        exact Nat.le_trans (Nat.le_add_right _ _) hle

end Task

/-! ## What is known in the end -/

namespace Service

open Bus Stage

/-- What the watchers and the bus have counted after some tasks and a shutdown. -/
structure Audited (g : Gateway) (ts : List Task) (s : Service) : Prop where
  loginFailures_eq : s.stage.company.audit.loginFailures =
    (Task.outcomes g {} ts).countP fun x => x.1.isTurnedDown x.2
  bans_eq : s.stage.company.audit.bans = (Task.outcomes g {} ts).countP fun x => x.1.isBan x.2
  recent_eq : s.stage.company.audit.recent =
    ((Task.alarms g {} ts).map (·.description)).rtake SecurityAudit.recentLimit
  bans_mul_le : s.stage.company.audit.bans * g.settings.maxLoginFailure.toNat ≤
    s.stage.company.audit.loginFailures
  lifecycle_eq : s.stage.company.lifecycle = ⟨ts.countP Task.isStart, 1⟩
  consumerFailures_eq : s.stage.bus.stats.consumerFailures = 0
  dropped_eq : s.stage.bus.stats.dropped = 0
  dispatched_eq : s.stage.bus.stats.dispatched = s.stage.bus.stats.published

variable {b₀ : Bus Consumer} {g : Gateway} {s s' : Service} {ts : List Task} {n : Nat}
  {es : List (Entry Consumer)} {evs : List Event} {x : Event}

namespace Course

theorem isReleased_of_isDone {done : List Task} (h : Course b₀ g s done es)
    (hd : s.isDone = true) : s.door = .closed ∧ s.stage.bus.phase.isReleased = true := by
  simp only [isDone, Bool.and_eq_true, decide_eq_true_eq, Bool.not_eq_true', Stage.isBusy,
    Option.isSome_eq_false_iff, Option.isNone_iff_eq_none] at hd
  refine ⟨hd.1, ?_⟩
  by_contra hr
  obtain ⟨c, hc, -⟩ := h.released hd.1 (Bool.eq_false_iff.2 hr)
  cases hc.symm.trans hd.2

/-- When the stop signal was raised, all that the thread had published was in the queue, or was not
    needed any more. -/
theorem accepted_beforeStop_eq {done : List Task} (h₀ : Bus.start n = .ok b₀)
    (h : Course b₀ g s done es) (hs : es.any Entry.isStop = true) :
    accepted (beforeStop es) = (Task.performAll g {} done).2 ∨
      ∃ e ∈ dispatched es, e.kind.isShutdown = true := by
  obtain ⟨hof, hg⟩ := h.stopped hs
  obtain ⟨ls, hr⟩ := h.watched.run
  obtain ⟨ms, b₁, -, -, hm, -, -⟩ := exists_run_to_stop hr hs
  refine accepted_beforeStop_of_pending h₀ hm hof ?_
  have hgiven := (orderly_of_run h₀ hm).1.given Stage.main
  rwa [hg, List.self_eq_append_right] at hgiven

/-- **All is dispatched in the end, and nothing else.** -/
theorem dispatched_eq (h₀ : Bus.start n = .ok b₀) (h : Course b₀ g s (ts ++ [.shutdown]) es)
    (ht : ∀ t ∈ ts, t.IsOrdinary) (hd : s.isDone = true) :
    dispatched es = (Task.performAll g {} (ts ++ [.shutdown])).2 ∧
      accepted es = dispatched es ∧ refusals es = [] := by
  obtain ⟨hdoor, hrel⟩ := h.isReleased_of_isDone hd
  have hstop := h.closed_iff.2 hdoor
  obtain ⟨ls, hr⟩ := h.watched.run
  have hevs : (Task.performAll g {} (ts ++ [.shutdown])).2 =
      (Task.performAll g {} ts).2 ++ [.platformShutdown Platform.component] := by
    rw [Task.performAll_append]
    rfl
  -- the thread has nothing left to publish, as it had nothing left when it closed the bus
  have hof : offers es = (Task.performAll g {} (ts ++ [.shutdown])).2.map (Stage.main, ·) := by
    refine ((List.prefix_append _ _).eq_of_length_le ?_).trans h.offers_eq
    rw [h.offers_eq, ← (h.stopped hstop).1]
    obtain ⟨fs, hfs⟩ : beforeStop es <+: es := beforeStop_prefix
    conv_rhs => rw [← hfs, offers_append]
    rw [List.length_append]
    exact Nat.le_add_right _ _
  have hacc := h.accepted_beforeStop_eq h₀ hstop
  rw [hevs] at hof hacc ⊢
  obtain ⟨h₁, h₂, h₃⟩ := dispatched_of_sentinel h₀ hr (not_isLooping_of_isReleased hrel) hof rfl
    (fun e he => Bool.eq_false_iff.2 (mt EventKind.isShutdown_iff.1
      ((Task.countP_performAll ht).2 e he))) fun _ => hacc
  exact ⟨h₁, h₂.trans h₁.symm, h₃⟩

/-- **What the consumers know** is what was dispatched. -/
theorem company_eq {done : List Task} (h₀ : Bus.start n = .ok b₀) (h : Course b₀ g s done es)
    (hl : s.stage.bus.phase.isLooping = false) :
    s.stage.company.audit = (dispatched es).foldl (fun a e => (a.heed e).1) {} ∧
      s.stage.company.lifecycle = (dispatched es).foldl Lifecycle.after {} := by
  obtain ⟨hn, rfl⟩ := start_eq_ok h₀
  obtain ⟨ls, hr⟩ := h.watched.run
  have hdel := delivers_of_run hr
  have htold := hdel.told_eq
  have hdis := hdel.dispatched_eq
  rw [(idle_of_not_isLooping hl).1, List.append_nil] at htold
  rw [inFlight_of_not_isLooping hl, List.append_nil] at hdis
  have howed : told es = (dispatched es).flatMap fun e => (watchTable.matching e).map (·, e) := by
    rw [htold, hdis]
    change owed (snapshots .empty es) = List.flatMap _ ((snapshots .empty es).map Prod.fst)
    rw [List.flatMap_map, owed]
    refine List.flatMap_congr fun x hx => ?_
    rw [h.watched.table_eq x hx]
  rw [h.watched.company_eq, howed]
  exact heedAll_owed

theorem countP_filter_isSecurity {l : List Event} {k : EventKind}
    (hk : k = .loginFailed ∨ k = .clientBanned) :
    (l.filter (·.isSecurity)).countP (·.kind = k) = l.countP (·.kind = k) := by
  rw [List.countP_filter]
  congr 1
  funext e
  by_cases he : e.kind = k
  · subst he
    simpa [Event.isSecurity] using hk
  · simp [he]

theorem audit_eq (h₀ : Bus.start n = .ok b₀) (h : Course b₀ g s (ts ++ [.shutdown]) es)
    (ht : ∀ t ∈ ts, t.IsOrdinary) (hd : s.isDone = true) :
    s.stage.company.audit =
      ⟨(Task.outcomes g {} ts).countP fun x => x.1.isTurnedDown x.2,
        (Task.outcomes g {} ts).countP fun x => x.1.isBan x.2,
        ((Task.alarms g {} ts).map (·.description)).rtake SecurityAudit.recentLimit⟩ := by
  have hl := not_isLooping_of_isReleased (h.isReleased_of_isDone hd).2
  have hsec : (dispatched es).filter (·.isSecurity) = Task.alarms g {} ts := by
    rw [(h.dispatched_eq h₀ ht hd).1, Task.performAll_append, List.filter_append,
      Task.filter_isSecurity_performAll ht]
    exact List.append_nil _
  have hfailed : (dispatched es).countP (·.kind = .loginFailed) =
      (Task.outcomes g {} ts).countP fun x => x.1.isTurnedDown x.2 := by
    rw [← countP_filter_isSecurity (.inl rfl), hsec]
    exact Visit.countP_flatMap_alarms fun _ _ => Visit.countP_loginFailed_alarms
  have hbans : (dispatched es).countP (·.kind = .clientBanned) =
      (Task.outcomes g {} ts).countP fun x => x.1.isBan x.2 := by
    rw [← countP_filter_isSecurity (.inr rfl), hsec]
    exact Visit.countP_flatMap_alarms fun _ _ => Visit.countP_clientBanned_alarms
  have hheed := @foldl_heed (dispatched es) 0 0 []
  rw [hfailed, hbans, hsec, Nat.zero_add, Nat.zero_add, List.nil_append] at hheed
  exact (h.company_eq h₀ hl).1.trans hheed

theorem lifecycle_eq (h₀ : Bus.start n = .ok b₀) (h : Course b₀ g s (ts ++ [.shutdown]) es)
    (ht : ∀ t ∈ ts, t.IsOrdinary) (hd : s.isDone = true) :
    s.stage.company.lifecycle = ⟨ts.countP Task.isStart, 1⟩ := by
  have hl := not_isLooping_of_isReleased (h.isReleased_of_isDone hd).2
  obtain ⟨hstart, hnone⟩ := Task.countP_performAll ht (g := g) (b := {})
  have hno : (Task.performAll g {} ts).2.countP (·.kind = .platformShutdown) = 0 :=
    List.countP_eq_zero.2 fun e he => by simpa using hnone e he
  have hafter := @foldl_after {} (dispatched es)
  rw [← (h.company_eq h₀ hl).2, (h.dispatched_eq h₀ ht hd).1, Task.performAll_append,
    List.countP_append, List.countP_append, hstart, hno] at hafter
  simpa +decide [Task.performAll, Task.perform, Event.platformShutdown] using hafter

/-- **What has been counted in the end.** -/
theorem audited (h₀ : Bus.start n = .ok b₀) (h : Course b₀ g s (ts ++ [.shutdown]) es)
    (ht : ∀ t ∈ ts, t.IsOrdinary) (hd : s.isDone = true) : Audited g ts s := by
  obtain ⟨ls, hr⟩ := h.watched.run
  obtain ⟨-, hacc, href⟩ := h.dispatched_eq h₀ ht hd
  obtain ⟨hpub, hdrop, hcount⟩ := stats_of_run h₀ hr
  have haudit := h.audit_eq h₀ ht hd
  refine ⟨congrArg (·.loginFailures) haudit, congrArg (·.bans) haudit,
    congrArg (·.recent) haudit, ?_, h.lifecycle_eq h₀ ht hd, ?_, ?_, ?_⟩
  · rw [haudit]
    exact Task.countP_isBan_mul_le
  · obtain ⟨hn, rfl⟩ := start_eq_ok h₀
    rw [(delivers_of_run hr).failures_eq, h.watched.failures_eq]
  · rw [hdrop, href]
    rfl
  · rw [hcount, hpub, ← hacc, accepted, List.length_map]

end Course

/-! ## A platform that was put together -/

/-- **Valid settings make a platform** whose stage has the watchers and nothing to do. -/
theorem course_of_assemble {s : Settings} (key : Token.Key) (clock : Clock)
    (hs : s.fault? = none) :
    ∃ p marks b₀, Platform.assemble s key clock = .ok (p, marks) ∧
      Bus.start s.bus.capacity.toNat = .ok b₀ ∧ p.Idle ∧
      Course b₀ ⟨s.session, key⟩ (ofPlatform p) [] (entries marks) := by
  have hpos : 0 < s.bus.capacity.toNat := (Settings.fault?_eq_none_iff.1 hs).capacity_pos
  have h₀ : (Bus.start s.bus.capacity.toNat : Except StartError (Bus Consumer)) =
      .ok ⟨s.bus.capacity.toNat, hpos, [], false, true, .selecting, ∅, .empty, {}⟩ := by
    rw [Bus.start, dif_pos hpos]
  have ha : Platform.assemble s key clock = .ok
      (⟨{ gateway := ⟨s.session, key⟩, users := .ofEntries s.credentials, clock := clock },
        { bus := ⟨s.bus.capacity.toNat, hpos, [], false, true, .selecting, ∅, watchTable, {}⟩ }⟩,
        Platform.watches.map fun w => .bus (.subscribed Stage.main w.1 w.2)) := by
    rw [Platform.assemble, Stage.start, h₀]
    rfl
  refine ⟨_, _, _, ha, h₀, ⟨⟨fun _ => rfl, rfl, .inl ⟨rfl, rfl⟩⟩, rfl⟩, ?_⟩
  refine ⟨⟨⟨Platform.watches.map fun w => .subscribe Stage.main w.1 w.2, rfl⟩, rfl, ?_, rfl, .idle,
    rfl, fun _ _ => rfl⟩, rfl, rfl, rfl, ?_, ?_, ?_, ?_, ?_⟩
  · intro x hx
    cases hx
  · exact ⟨fun _ => List.forall_mem_nil _, fun _ => rfl⟩
  · constructor <;> intro h <;> cases h
  · intro t c hc
    cases hc
  · intro h
    cases h
  · intro h
    cases h

/-- **The audit is complete.**  Valid settings make a platform.  If its thread did some ordinary
    tasks and then a shutdown, whatever the schedule, then all has been counted when the shutdown
    returns.  No schedule keeps it from that: however far the thread has come, what is left can be
    done and the shutdown returns.  And what the platform does when it is given orders, one after
    the other, is one of these runs. -/
theorem audited_of_assemble (s : Settings) (key : Token.Key) (clock : Clock)
    (hs : s.fault? = none) :
    ∃ p marks, Platform.assemble s key clock = .ok (p, marks) ∧
      (∀ ts v, (∀ t ∈ ts, t.IsOrdinary) → (ofPlatform p).Reaches (ts ++ [.shutdown]) v →
        v.isDone = true → Audited ⟨s.session, key⟩ ts v) ∧
      (∀ ts us v, (∀ t ∈ ts, t.IsOrdinary) → (ofPlatform p).Reaches us v →
        us <+: ts ++ [.shutdown] →
        ∃ vs w, v.Reaches vs w ∧ us ++ vs = ts ++ [.shutdown] ∧ w.isDone = true) ∧
      ∀ os ts, p.tasks? os = some ts → (∀ t ∈ ts, t.IsOrdinary) →
        ∃ v, (ofPlatform p).Reaches (ts ++ [.shutdown]) v ∧ v.isDone = true ∧
          v.stage = ((p.after os).perform .shutdown).1.stage := by
  obtain ⟨p, marks, b₀, hp, h₀, hidle, hc⟩ := course_of_assemble key clock hs
  refine ⟨p, marks, hp, ?_, ?_, ?_⟩
  · intro ts v ht hv hd
    obtain ⟨es, h⟩ := hc.reaches h₀ hv
    exact h.audited h₀ ht hd
  · intro ts us v ht hv hpre
    obtain ⟨es, h⟩ := hc.reaches h₀ hv
    exact h.exists_run_to_end h₀ hpre fun t hm => (ht t hm).door_eq
  · intro os ts hts ht
    exact Platform.reaches_after h₀ hc hidle hts fun t hm => (ht t hm).door_eq

/-- Settings with a queue for one event, and a ban for the second failure. -/
def narrowSettings : Settings :=
  { bus := { capacity := 1 }, session := { maxLoginFailure := 2 } }

theorem fault?_narrowSettings : narrowSettings.fault? = none :=
  Settings.fault?_eq_none_iff.2
    ⟨show (2 : UInt32) ≠ 0 by decide, show (3600 : UInt64) ≠ 0 by decide,
      show (1 : UInt64) ≠ 0 by decide, isCookieName_default, List.forall_mem_nil _⟩

def guess (now : Int) : Task :=
  .visit ⟨now, fun _ _ => false, .login .post "203.0.113.9" ⟨"ann", "secret"⟩⟩

/-- The platform starts, a client guesses until it is banned and once more, and something that
    concerns nobody is told. -/
def guessingDay : List Task := [.start, guess 0, .wait, guess 10, guess 20, .publish blankEvent]

theorem audited_of_assemble_guessingDay :
    ∃ p marks v, Platform.assemble narrowSettings [] ⟨0⟩ = .ok (p, marks) ∧
      (ofPlatform p).Reaches (guessingDay ++ [.shutdown]) v ∧ v.isDone = true ∧
      v.stage.company.audit.loginFailures = 2 ∧ v.stage.company.audit.bans = 1 ∧
      v.stage.company.audit.recent =
        ["Login failed for 'ann' from 203.0.113.9", "Login failed for 'ann' from 203.0.113.9",
          "Client 203.0.113.9 banned"] ∧
      v.stage.company.lifecycle = ⟨1, 1⟩ ∧ v.stage.bus.stats.dropped = 0 := by
  obtain ⟨p, marks, hp, haud, hend, -⟩ :=
    audited_of_assemble narrowSettings [] ⟨0⟩ fault?_narrowSettings
  have hord : ∀ t ∈ guessingDay, t.IsOrdinary := by
    simp +decide [guessingDay, guess, Task.IsOrdinary, blankEvent]
  obtain ⟨vs, v, hv, rfl, hd⟩ := hend guessingDay [] _ hord .refl List.nil_prefix
  have h := haud guessingDay v hord hv hd
  exact ⟨p, marks, v, hp, hv, hd, h.loginFailures_eq.trans rfl, h.bans_eq.trans rfl,
    h.recent_eq.trans rfl, h.lifecycle_eq, h.dropped_eq⟩

end Service

end PlatformCore
