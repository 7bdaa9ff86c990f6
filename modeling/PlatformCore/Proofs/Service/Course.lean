/-
  The course of a service.

  The consumers of a platform only tell the log about what they are told.  So all that happens on
  the bus comes from the one thread that does the tasks, and what the watchers know is what they
  were told.

  * `Goes` is the relation of the steps of a stage whose consumers are calm;
  * `Stage.Watched` is the invariant of such a stage, and `watched_of_goes` keeps it;
  * `Course` is that of a service, and `Course.run` says that every run keeps it.
-/
import PlatformCore.Proofs.Bus.Isolation
import PlatformCore.Proofs.Bus.Rest
import PlatformCore.Proofs.Service.Watch
import PlatformCore.Service

namespace PlatformCore

open Stage

/-! ## What is reported of a step -/

namespace Bus

variable {κ : Type} {b b' : Bus κ} {l : Label κ} {fs : List (Entry κ)}

def Label.offer? : Label κ → List (Thread × Event)
  | publish t e => [(t, e)]
  | _ => []

theorem offers_of_moves (h : Moves b l b' fs) : offers fs = l.offer? := by
  cases h with
  | stall => split <;> rfl
  | _ => rfl

theorem registrations_of_moves (h : Moves b l b' fs) (hl : ∀ t f c, l ≠ .subscribe t f c) :
    registrations fs = [] := by
  cases h with
  | subscribe => exact absurd rfl (hl _ _ _)
  | stall => split <;> rfl
  | _ => rfl

theorem told_of_moves_of_ne (h : Moves b l b' fs) (hl : l ≠ .proceed) : told fs = [] := by
  cases h with
  | drain | leave | tell | complete | stop | detach | release | vanish => exact absurd rfl hl
  | stall => split <;> rfl
  | _ => rfl

theorem failures_of_moves (h : Moves b l b' fs) (hl : ∀ o, l = .endWork o → o = .ok) :
    failures fs = 0 := by
  cases h with
  | endWork => rw [hl _ rfl]; rfl
  | stall => split <;> rfl
  | _ => rfl

theorem any_isStop_of_moves (h : Moves b l b' fs) (hl : ∀ t, l ≠ .close t) :
    fs.any Entry.isStop = false := by
  cases h with
  | close => exact absurd rfl (hl _)
  | stall => split <;> rfl
  | _ => rfl

theorem table_of_mem_snapshots {t : Table κ} {x : Event × Table κ} (hr : registrations fs = [])
    (hx : x ∈ snapshots t fs) : x.2 = t := by
  induction fs with
  | nil => cases hx
  | cons y fs ih =>
    cases y with
    | subscribed => cases hr
    | taken e =>
      rcases List.mem_cons.1 hx with rfl | hx
      · rfl
      · exact ih hr hx
    | _ => exact ih hr hx

/-- What the dispatch thread tells when it proceeds is what a consumer then works on. -/
theorem told_of_proceed (h : Moves b .proceed b' fs) :
    (∃ d c, b'.phase = .handling d c ∧ told fs = [(c, d.event)]) ∨
      b'.phase.isHandling = false ∧ told fs = [] := by
  cases h with
  | @tell d c => exact .inl ⟨_, c, rfl, rfl⟩
  | @complete d =>
    refine .inr ⟨?_, rfl⟩
    change d.next.isHandling = false
    rw [Delivery.next]
    split
    · rfl
    · split <;> rfl
  | _ => exact .inr ⟨rfl, rfl⟩

/-- A step of the dispatch thread or of a call, in which nobody publishes, registers, closes or
    tells anything. -/
def Label.IsQuiet : Label κ → Prop
  | offer _ | takeEvent | takeStop | claim _ | finish _ => True
  | _ => False

/-! ## A thread whose last event ends all delivery -/

variable {b₀ : Bus κ} {ls : List (Label κ)} {es : List (Entry κ)} {n : Nat} {t : Thread}
  {evs : List Event} {x : Event}

theorem eq_of_prefix_of_isShutdown {k : List Event} (h : k <+: evs ++ [x])
    (hn : ∀ e ∈ evs, e.kind.isShutdown = false) (hk : ∃ e ∈ k, e.kind.isShutdown = true) :
    k = evs ++ [x] := by
  rcases List.prefix_concat_iff.1 h with he | hp
  · exact he
  · obtain ⟨e, he, hs⟩ := hk
    rw [hn e (hp.subset he)] at hs
    cases hs

/-- **All is delivered, and nothing else**, if one thread alone published, its last event was the
    only one that ends all delivery, and the stop signal was not raised before that event was in the
    queue. -/
theorem dispatched_of_sentinel (h₀ : start n = .ok b₀) (h : b₀.run? ls = some (b, es))
    (hl : b.phase.isLooping = false) (hof : offers es = (evs ++ [x]).map fun e => (t, e))
    (hx : x.kind.isShutdown = true) (hn : ∀ e ∈ evs, e.kind.isShutdown = false)
    (hs : es.any Entry.isStop = true → accepted (beforeStop es) = evs ++ [x] ∨
      ∃ e ∈ dispatched es, e.kind.isShutdown = true) :
    dispatched es = evs ++ [x] ∧ accepted es = evs ++ [x] ∧ refusals es = [] := by
  obtain ⟨ho, -⟩ := orderly_of_run h₀ h
  have ht : ∀ p ∈ offers es, p.1 = t := by
    intro p hp
    rw [hof] at hp
    obtain ⟨e, -, rfl⟩ := List.mem_map.1 hp
    rfl
  have hg := ho.given t
  rw [← ho.accepted_eq_ofThread ht, ofThread_eq_map ht, hof, List.map_map, List.append_assoc] at hg
  have hg : evs ++ [x] = accepted es ++ (ofThread t (refusals es) ++ pending b.calls t) :=
    (List.map_id _).symm.trans hg
  rcases delivered_of_left h₀ h hl with ⟨⟨e, he, hk⟩, hd⟩ | ⟨hno, hany, hp, -⟩
  · have ha : accepted es = evs ++ [x] :=
      eq_of_prefix_of_isShutdown ⟨_, hg.symm⟩ hn ⟨e, ho.dispatched_isPrefix.subset he, hk⟩
    refine ⟨?_, ha, ?_⟩
    · rw [hd, ha, throughShutdown_of_dropLast (by rwa [List.dropLast_concat])]
    · rw [ha, List.self_eq_append_right, List.append_eq_nil_iff] at hg
      refine List.eq_nil_iff_forall_not_mem.2 fun p hmem => ?_
      -- what was refused would be of the same thread
      have hr : p.2 ∈ ofThread p.1 (refusals es) := mem_ofThread.2 hmem
      have ho' : p.2 ∈ ofThread p.1 (offers es) := by
        rw [ho.given p.1]
        exact List.mem_append_left _ (List.mem_append_right _ hr)
      rw [ht p (mem_ofThread.1 ho'), hg.1] at hr
      cases hr
  · -- the last event would have been dispatched
    rcases hs hany with ha | ⟨e, he, hk⟩
    · rw [ha] at hp
      rw [hno x (hp.subset (by simp))] at hx
      cases hx
    · rw [hno e he] at hk
      cases hk

end Bus

/-! ## The stage -/

namespace Stage

open Bus

def entries (marks : List Mark) : List (Entry Consumer) :=
  marks.filterMap fun
    | .bus x => some x
    | .note _ => none

/-- The events that the main thread is still to publish. -/
def unsent (s : Stage) : List Event := (s.outbox.get? main).getD []

variable {s s' : Stage} {u : Turn} {marks more : List Mark} {b₀ b : Bus Consumer}
  {es fs : List (Entry Consumer)} {t : Thread} {l : Label Consumer}

@[simp] theorem entries_append : entries (marks ++ more) = entries marks ++ entries more :=
  List.filterMap_append

@[simp] theorem entries_map_bus : entries (fs.map .bus) = fs := by
  rw [entries, List.filterMap_map]
  exact List.filterMap_some

/-- What a step of a stage does, if the consumer at work only tells the log. -/
inductive Goes (s : Stage) : Stage → List (Entry Consumer) → Prop
  | publish {t : Thread} {e : Event} {rest : List Event} {b' : Bus Consumer}
      {r : List (Entry Consumer)} (ho : s.outbox.get? t = some (e :: rest))
      (hb : s.bus.step? (.publish t e) = some (b', r)) :
    Goes s { s with bus := b', outbox := s.outbox.insert t rest } r
  | quiet {m : Label Consumer} {b' : Bus Consumer} {r : List (Entry Consumer)} (hm : m.IsQuiet)
      (hb : s.bus.step? m = some (b', r)) :
    Goes s { s with bus := b' } r
  | proceed {b' : Bus Consumer} {r : List (Entry Consumer)}
      (hb : s.bus.step? .proceed = some (b', r)) :
    Goes s ({ s with bus := b' }.react) r
  | note {a : Act Consumer} {acts : List (Act Consumer)} (ha : s.reaction.acts = a :: acts) :
    Goes s { s with reaction := { s.reaction with acts := acts } } []
  | endWork {b' : Bus Consumer} {r : List (Entry Consumer)}
      (hb : s.bus.step? (.endWork s.reaction.ending) = some (b', r)) :
    Goes s { s with bus := b' } r

theorem exists_step_of_step? {r : Stage × List Mark} (h : s.step? l = some r) :
    ∃ b fs, s.bus.step? l = some (b, fs) ∧ r = ({ s with bus := b }, fs.map .bus) := by
  obtain ⟨⟨b, fs⟩, hb, rfl⟩ := Option.map_eq_some_iff.1 h
  exact ⟨b, fs, hb, rfl⟩

theorem goes_of_step? (h : s.step? l = some (s', marks)) (hl : l.IsQuiet) :
    Goes s s' (entries marks) := by
  obtain ⟨b, fs, hb, he⟩ := exists_step_of_step? h
  cases he
  rw [entries_map_bus]
  exact .quiet hl hb

theorem goes_of_turn? (hc : s.reaction.Calm) (h : s.turn? u = some (s', marks)) :
    Goes s s' (entries marks) := by
  cases u with
  | send t =>
    simp only [turn?] at h
    split at h
    · exact goes_of_step? h trivial
    · next ho =>
      obtain ⟨b, fs, hb, he⟩ := exists_step_of_step? h
      cases he
      rw [entries_map_bus]
      exact .publish ho hb
    · cases h
  | takeEvent | takeStop => exact goes_of_step? h trivial
  | proceed =>
    obtain ⟨r, hr, he⟩ := Option.map_eq_some_iff.1 h
    obtain ⟨b, fs, hb, rfl⟩ := exists_step_of_step? hr
    cases he
    rw [entries_map_bus]
    exact .proceed hb
  | work =>
    simp only [turn?] at h
    split at h
    · simp only [work?] at h
      split at h
      · obtain ⟨b, fs, hb, he⟩ := exists_step_of_step? h
        cases he
        rw [entries_map_bus]
        exact .endWork hb
      · next a acts ha =>
        obtain ⟨n, rfl⟩ := hc.acts_eq a (ha ▸ List.mem_cons_self)
        cases h
        exact .note ha
    · cases h
  | goOn t =>
    rcases Option.or_eq_some_iff.1 h with h | ⟨-, h⟩
    · exact goes_of_step? h trivial
    · exact goes_of_step? h trivial

@[simp] theorem bus_react : s.react.bus = s.bus := by
  rw [react]
  split <;> rfl

theorem bus_of_goes (h : Goes s s' fs) :
    s'.bus = s.bus ∧ fs = [] ∨
      ∃ l, (∀ t, l ≠ .close t) ∧ s.bus.step? l = some (s'.bus, fs) := by
  cases h with
  | @publish t e _ _ _ _ hb => exact .inr ⟨.publish t e, nofun, hb⟩
  | @quiet l _ _ hl hb =>
    refine .inr ⟨l, ?_, hb⟩
    rintro t rfl
    cases hl
  | proceed hb => exact .inr ⟨.proceed, nofun, by rwa [bus_react]⟩
  | note => exact .inl ⟨rfl, rfl⟩
  | endWork hb => exact .inr ⟨.endWork s.reaction.ending, nofun, hb⟩

/-- What is kept of a stage that came out of a fresh bus and has the watchers only. -/
structure Watched (b₀ : Bus Consumer) (s : Stage) (es : List (Entry Consumer)) : Prop where
  run : ∃ ls, b₀.run? ls = some (s.bus, es)
  registrations_eq : registrations es = Platform.watches
  table_eq : ∀ x ∈ snapshots .empty es, x.2 = watchTable
  company_eq : s.company = Company.heedAll {} (told es)
  calm : s.reaction.Calm
  failures_eq : failures es = 0
  outbox_eq : ∀ t, t ≠ main → (s.outbox.get? t).getD [] = []

theorem run_concat {ls : List (Label Consumer)} (h : b₀.run? ls = some (s.bus, es))
    (hb : s.bus.step? l = some (b, fs)) : b₀.run? (ls ++ [l]) = some (b, es ++ fs) := by
  have h₁ : s.bus.run? [l] = some (b, fs) := by
    rw [Bus.run?_cons hb rfl, List.append_nil]
  exact run?_append h h₁

namespace Watched

theorem watcher?_of_mem_told {n : Nat} {c : Consumer} {e : Event} (h₀ : Bus.start n = .ok b₀)
    (h : Watched b₀ s es) (hx : (c, e) ∈ told es) : e.watcher? = some c := by
  obtain ⟨hn, rfl⟩ := start_eq_ok h₀
  obtain ⟨ls, hr⟩ := h.run
  have ht := (delivers_of_run hr).told_eq
  have hm : (c, e) ∈ owed (snapshots .empty es) := by
    have : (c, e) ∈ told es ++ s.bus.phase.untold := List.mem_append_left _ hx
    rwa [ht] at this
  obtain ⟨x, hxs, hxm⟩ := List.mem_flatMap.1 hm
  obtain ⟨c', hc, he⟩ := List.mem_map.1 hxm
  cases he
  rw [h.table_eq x hxs, matching_watches, Option.mem_toList] at hc
  exact hc

theorem step (h : Watched b₀ s es) (hb : s.bus.step? l = some (s'.bus, fs))
    (hl : ∀ t f c, l ≠ .subscribe t f c) (ho : ∀ o, l = .endWork o → o = .ok)
    (hco : s'.company = s.company.heedAll (told fs)) (hc : s'.reaction.Calm)
    (hs : ∀ t, t ≠ main → (s'.outbox.get? t).getD [] = []) : Watched b₀ s' (es ++ fs) := by
  have hm : Moves s.bus l s'.bus fs := moves_of_step? hb
  have hr : registrations fs = [] := registrations_of_moves hm hl
  obtain ⟨ls, hrun⟩ := h.run
  refine ⟨⟨_, run_concat hrun hb⟩, ?_, ?_, ?_, hc, ?_, hs⟩
  · rw [registrations_append, hr, List.append_nil, h.registrations_eq]
  · intro x hx
    rw [snapshots_append, h.registrations_eq] at hx
    rcases List.mem_append.1 hx with hx | hx
    · exact h.table_eq x hx
    · exact table_of_mem_snapshots hr hx
  · rw [hco, h.company_eq, told_append, Company.heedAll_append]
  · rw [failures_append, h.failures_eq, failures_of_moves hm ho]

end Watched

theorem react_of_handling {d : Delivery Consumer} {c : Consumer}
    (h : s.bus.phase = .handling d c) :
    s.react =
      { s with
        company := (s.company.react c d.event).1
        reaction := (s.company.react c d.event).2 } := by
  rw [react, h]

theorem react_eq_self (h : s.bus.phase.isHandling = false) : s.react = s := by
  rw [react]
  split
  · next hp =>
    rw [hp] at h
    cases h
  · rfl

/-- **A step keeps the invariant.**  If it publishes anything, this is the next event that the main
    thread had to publish, and nobody calls close. -/
theorem watched_of_goes {n : Nat} (h₀ : Bus.start n = .ok b₀) (h : Watched b₀ s es)
    (hg : Goes s s' fs) :
    Watched b₀ s' (es ++ fs) ∧ (unsent s).map (main, ·) = offers fs ++ (unsent s').map (main, ·) ∧
      fs.any Entry.isStop = false := by
  cases hg with
  | @publish t e rest _ _ ho hb =>
    have hm := moves_of_step? hb
    have ht : t = main := by
      by_contra hne
      have hnil := h.outbox_eq t hne
      rw [ho] at hnil
      cases hnil
    subst ht
    refine ⟨h.step hb nofun nofun ?_ h.calm ?_, ?_, any_isStop_of_moves hm nofun⟩
    · rw [told_of_moves_of_ne hm nofun]
      rfl
    · intro t ht
      rw [Registry.get?_insert_of_ne ht]
      exact h.outbox_eq t ht
    · rw [offers_of_moves hm, unsent, unsent, ho, Registry.get?_insert_self]
      rfl
  | @quiet l _ _ hl hb =>
    have hm := moves_of_step? hb
    have hq : (∀ t f c, l ≠ .subscribe t f c) ∧ (∀ o, l ≠ .endWork o) ∧ l ≠ .proceed ∧
        (∀ t, l ≠ .close t) ∧ l.offer? = [] := by
      cases l with
      | publish | subscribe | close | proceed | endWork => cases hl
      | _ => exact ⟨nofun, nofun, nofun, nofun, rfl⟩
    obtain ⟨hsub, hend, hpro, hclo, hoff⟩ := hq
    refine ⟨h.step hb hsub (fun o ho => absurd ho (hend o)) ?_ h.calm h.outbox_eq, ?_,
      any_isStop_of_moves hm hclo⟩
    · rw [told_of_moves_of_ne hm hpro]
      rfl
    · rw [offers_of_moves hm, hoff]
      rfl
  | @proceed b' _ hb =>
    have hm := moves_of_step? hb
    have hw : Watched b₀
        { s with bus := b', company := s.company.heedAll (told fs), reaction := {} } (es ++ fs) :=
      h.step hb nofun nofun rfl .idle h.outbox_eq
    have hoff : offers fs = [] := offers_of_moves hm
    refine ⟨?_, ?_, any_isStop_of_moves hm nofun⟩
    · rcases told_of_proceed hm with ⟨d, c, hp, ht⟩ | ⟨hp, ht⟩
      · have hc : d.event.watcher? = some c := by
          refine hw.watcher?_of_mem_told h₀ ?_
          rw [told_append, ht]
          exact List.mem_append_right _ List.mem_cons_self
        rw [react_of_handling hp]
        refine ⟨hw.run, hw.registrations_eq, hw.table_eq, ?_, calm_react hc, hw.failures_eq,
          hw.outbox_eq⟩
        rw [← hw.company_eq, ht]
        rfl
      · rw [react_eq_self hp]
        refine ⟨hw.run, hw.registrations_eq, hw.table_eq, ?_, h.calm, hw.failures_eq,
          hw.outbox_eq⟩
        rw [← hw.company_eq, ht]
        rfl
    · have hout : ({ s with bus := b' } : Stage).react.outbox = s.outbox := by
        rw [react]
        split <;> rfl
      rw [hoff, unsent, unsent, hout]
      rfl
  | note ha =>
    refine ⟨?_, rfl, rfl⟩
    rw [List.append_nil]
    refine ⟨h.run, h.registrations_eq, h.table_eq, h.company_eq,
      ⟨h.calm.ending_eq, fun a hmem => h.calm.acts_eq a (ha ▸ List.mem_cons_of_mem _ hmem), ?_⟩,
      h.failures_eq, h.outbox_eq⟩
    have hlen := h.calm.length_le
    rw [ha, List.length_cons] at hlen
    exact Nat.le_of_succ_le hlen
  | endWork hb =>
    have hm := moves_of_step? hb
    refine ⟨h.step hb nofun ?_ ?_ h.calm h.outbox_eq, ?_, any_isStop_of_moves hm nofun⟩
    · intro o ho
      cases ho
      exact h.calm.ending_eq
    · rw [told_of_moves_of_ne hm nofun]
      rfl
    · rw [offers_of_moves hm]
      rfl

end Stage

/-! ## The service -/

/-- The ban list that tasks leave, and the events that they have the thread publish. -/
def Task.performAll (g : Session.Gateway) (b : Session.BanList) :
    List Task → Session.BanList × List Event
  | [] => (b, [])
  | t :: ts =>
    let r := t.perform g b
    let (b, es) := performAll g r.1 ts
    (b, r.2 ++ es)

theorem Task.performAll_append {g : Session.Gateway} {b : Session.BanList} {ts us : List Task} :
    performAll g b (ts ++ us) =
      ((performAll g (performAll g b ts).1 us).1,
        (performAll g b ts).2 ++ (performAll g (performAll g b ts).1 us).2) := by
  induction ts generalizing b with
  | nil => rfl
  | cons t ts ih => simp only [List.cons_append, performAll, ih, List.append_assoc]

namespace Service

open Bus

/-- What is kept of a service that has begun the tasks `done`. -/
structure Course (b₀ : Bus Consumer) (g : Session.Gateway) (s : Service) (done : List Task)
    (es : List (Entry Consumer)) : Prop where
  watched : Watched b₀ s.stage es
  gateway_eq : s.gateway = g
  bans_eq : s.bans = (Task.performAll g {} done).1
  /-- What the thread published is what its tasks asked for, but for what it still has to. -/
  offers_eq : offers es ++ s.stage.unsent.map (Stage.main, ·) =
    (Task.performAll g {} done).2.map (Stage.main, ·)
  opened_iff : s.door = .opened ↔ ∀ t ∈ done, t.door = .opened
  closed_iff : es.any Entry.isStop = true ↔ s.door = .closed
  closer_of_isClose : ∀ t c, s.stage.bus.calls.get? t = some c → c.isClose = true →
    t = closer ∧ s.door = .closed
  released : s.door = .closed → s.stage.bus.phase.isReleased = false →
    ∃ c, s.stage.bus.calls.get? closer = some c ∧ c.isClose = true
  /-- When the stop signal was raised it had published everything, and had nothing on its hands. -/
  stopped : es.any Entry.isStop = true →
    offers (beforeStop es) = (Task.performAll g {} done).2.map (Stage.main, ·) ∧
      ofThread Stage.main (offers (beforeStop es)) =
        ofThread Stage.main (accepts (beforeStop es)) ++
          ofThread Stage.main (refusals (beforeStop es))

variable {b₀ : Bus Consumer} {g : Session.Gateway} {s s' : Service} {done : List Task} {n : Nat}
  {es : List (Entry Consumer)} {marks : List Mark} {m : Move} {ms : List Move}

theorem unsent_of_isFree {s : Stage} (h : s.isFree Stage.main = true) :
    s.bus.calls.get? Stage.main = none ∧ s.unsent = [] := by
  simpa [Stage.isFree, isBusy, unsent] using h

namespace Course

theorem begin (h : Course b₀ g s done es) (hf : s.stage.isFree Stage.main = true)
    (hd : s.door = .opened) (t : Task) :
    Course b₀ g
      { s with
        bans := (t.perform s.gateway s.bans).1
        stage := s.stage.post Stage.main (t.perform s.gateway s.bans).2
        door := t.door } (done ++ [t]) es := by
  have hp : Task.performAll g {} (done ++ [t]) = ((t.perform s.gateway s.bans).1,
      (Task.performAll g {} done).2 ++ (t.perform s.gateway s.bans).2) := by
    rw [Task.performAll_append, ← h.bans_eq, h.gateway_eq]
    simp only [Task.performAll, List.append_nil]
  have hns : ¬ es.any Entry.isStop = true := by
    intro hs
    rw [h.closed_iff.1 hs] at hd
    cases hd
  have hu : (s.stage.post Stage.main (t.perform s.gateway s.bans).2).unsent =
      (t.perform s.gateway s.bans).2 := by
    rw [unsent, post, Registry.get?_insert_self, Option.getD_some]
  refine ⟨?_, h.gateway_eq, by rw [hp], ?_, ?_, ⟨fun hs => absurd hs hns, ?_⟩, ?_, ?_,
    fun hs => absurd hs hns⟩
  · obtain ⟨hr, hg, ht, hc, hcalm, hfail, ho⟩ := h.watched
    refine ⟨hr, hg, ht, hc, hcalm, hfail, fun t ht => ?_⟩
    rw [post, Registry.get?_insert_of_ne ht]
    exact ho t ht
  · have hoff := h.offers_eq
    rw [(unsent_of_isFree hf).2, List.map_nil, List.append_nil] at hoff
    rw [hoff, hu, hp, List.map_append]
  · rw [List.forall_mem_append, List.forall_mem_singleton]
    exact ⟨fun ht => ⟨h.opened_iff.1 hd, ht⟩, And.right⟩
  · intro ht
    cases t <;> cases ht
  · intro u c hc hi
    rw [(h.closer_of_isClose u c hc hi).2] at hd
    cases hd
  · intro ht
    cases t <;> cases ht

theorem close (h₀ : Bus.start n = .ok b₀) (h : Course b₀ g s done es)
    (hf : s.stage.isFree Stage.main = true) (hd : s.door = .closing) {r : Stage × List Mark}
    (hr : s.stage.step? (.close closer) = some r) :
    Course b₀ g { s with stage := r.1, door := .closed } done (es ++ entries r.2) := by
  obtain ⟨b, fs, hb, rfl⟩ := exists_step_of_step? hr
  obtain ⟨hcall, hunsent⟩ := unsent_of_isFree hf
  have hns : es.any Entry.isStop = false := by
    refine Bool.eq_false_iff.2 fun hs => ?_
    rw [h.closed_iff.1 hs] at hd
    cases hd
  have hm := moves_of_step? hb
  have hoff : offers fs = [] := offers_of_moves hm
  have hfs : beforeStop (es ++ fs) = es := by
    cases hm
    rw [beforeStop_append_of_not_any hns]
    exact List.append_nil es
  have hall := h.offers_eq
  rw [hunsent, List.map_nil, List.append_nil] at hall
  rw [entries_map_bus]
  refine ⟨?_, h.gateway_eq, h.bans_eq, ?_, ?_, ⟨fun _ => rfl, fun _ => ?_⟩, ?_, ?_, fun _ => ?_⟩
  · refine h.watched.step hb nofun nofun ?_ h.watched.calm h.watched.outbox_eq
    rw [told_of_moves_of_ne hm nofun]
    rfl
  · rw [offers_append, hoff, List.append_nil]
    exact h.offers_eq
  · rw [← h.opened_iff, hd]
    exact ⟨nofun, nofun⟩
  · cases hm
    rw [List.any_append]
    exact Bool.or_true _
  · intro u c hc hi
    refine ⟨?_, rfl⟩
    cases hm
    rcases Registry.get?_insert_eq_some_iff.1 hc with ⟨hu, -⟩ | ⟨-, hc⟩
    · exact hu
    · rw [(h.closer_of_isClose u c hc hi).2] at hd
      cases hd
  · intro _ _
    cases hm
    exact ⟨_, Registry.get?_insert_self, rfl⟩
  · rw [hfs]
    refine ⟨hall, ?_⟩
    obtain ⟨ls, hrun⟩ := h.watched.run
    have hg := (orderly_of_run h₀ hrun).1.given Stage.main
    rwa [pending, hcall, Option.map_none, Option.getD_none, List.append_nil] at hg

theorem turn (h₀ : Bus.start n = .ok b₀) (h : Course b₀ g s done es) {u : Turn}
    {r : Stage × List Mark} (hr : s.stage.turn? u = some r) :
    Course b₀ g { s with stage := r.1 } done (es ++ entries r.2) := by
  have hgo := goes_of_turn? h.watched.calm hr
  obtain ⟨hw, hoff, hns⟩ := watched_of_goes h₀ h.watched hgo
  have hany : (es ++ entries r.2).any Entry.isStop = es.any Entry.isStop := by
    rw [List.any_append, hns, Bool.or_false]
  refine ⟨hw, h.gateway_eq, h.bans_eq, ?_, h.opened_iff, ?_, ?_, ?_, ?_⟩
  · rw [← h.offers_eq, hoff, offers_append, List.append_assoc]
  · rw [hany]
    exact h.closed_iff
  · intro t c hc hi
    rcases bus_of_goes hgo with ⟨hb, -⟩ | ⟨l, hl, hb⟩
    · exact h.closer_of_isClose t c (hb ▸ hc) hi
    · obtain ⟨c', hc', hi'⟩ := isClose_of_moves_of_ne (moves_of_step? hb) hl hc hi
      exact h.closer_of_isClose t c' hc' hi'
  · intro hd hrel
    rcases bus_of_goes hgo with ⟨hb, -⟩ | ⟨l, -, hb⟩
    · exact hb ▸ h.released hd (hb ▸ hrel)
    · have hm := moves_of_step? hb
      have hrel' : s.stage.bus.phase.isReleased = false := by
        refine Bool.eq_false_iff.2 fun hp => ?_
        rw [isReleased_of_moves hm hp] at hrel
        cases hrel
      obtain ⟨c, hc, hi⟩ := h.released hd hrel'
      exact isClose_of_not_isReleased hm hc hi hrel
  · rw [hany]
    intro hs
    rw [beforeStop_append_of_any hs]
    exact h.stopped hs

theorem move (h₀ : Bus.start n = .ok b₀) (h : Course b₀ g s done es)
    (hm : s.move? m = some (s', marks)) :
    Course b₀ g s' (done ++ tasks [m]) (es ++ entries marks) := by
  cases m with
  | begin t =>
    simp only [move?] at hm
    split at hm
    · next hc =>
      cases hm
      rw [show entries [] = [] from rfl, List.append_nil]
      exact h.begin hc.2 hc.1 t
    · cases hm
  | close =>
    simp only [move?] at hm
    split at hm
    · next hc =>
      obtain ⟨r, hr, he⟩ := Option.map_eq_some_iff.1 hm
      cases he
      rw [show tasks [Move.close] = [] from rfl, List.append_nil]
      exact h.close h₀ hc.2 hc.1 hr
    · cases hm
  | turn u =>
    obtain ⟨r, hr, he⟩ := Option.map_eq_some_iff.1 hm
    cases he
    rw [show tasks [Move.turn u] = [] from rfl, List.append_nil]
    exact h.turn h₀ hr

theorem run (h₀ : Bus.start n = .ok b₀) (h : Course b₀ g s done es)
    (hm : s.run? ms = some (s', marks)) :
    Course b₀ g s' (done ++ tasks ms) (es ++ entries marks) := by
  induction ms generalizing s done es marks with
  | nil =>
    cases hm
    rwa [show tasks [] = [] from rfl, show entries [] = [] from rfl, List.append_nil,
      List.append_nil]
  | cons m ms ih =>
    obtain ⟨s₁, marks₁, marks₂, h₁, h₂, rfl⟩ := run?_cons_eq_some hm
    rw [entries_append, ← List.append_assoc, show tasks (m :: ms) = tasks [m] ++ tasks ms from
      @tasks_append [m] ms, ← List.append_assoc]
    exact ih (h.move h₀ h₁) h₂

theorem reaches {ts : List Task} (h₀ : Bus.start n = .ok b₀) (h : Course b₀ g s done es)
    (hm : s.Reaches ts s') : ∃ fs, Course b₀ g s' (done ++ ts) fs := by
  obtain ⟨ms, marks, hm, rfl⟩ := hm
  exact ⟨_, h.run h₀ hm⟩

end Course

end Service

end PlatformCore
