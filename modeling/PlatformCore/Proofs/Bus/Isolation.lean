/-
  What consumers can do to each other.

  When the dispatch thread takes an event it looks up once who is to be told, and tells them one
  after the other.  How the work of a consumer ends, well, with an error or in a panic, is counted
  and changes nothing else, and what a consumer registers in the meantime counts from the next event
  on.

  * `snapshots` are the events that were taken, each with the table of that moment, and `owed` is
    who is to be told by them;
  * `Delivers` is what holds between the two ends of a run, and `delivers_of_run` says that it does;
  * `told_of_dispatch` is the part of a run that belongs to one event;
  * `Label.mute` and `Entry.mute` make every end a good one, and `run?_mute` says that a run cannot
    tell the difference;
  * `isolated_of_run`: all of this together.
-/
import PlatformCore.Proofs.Bus.Close
import PlatformCore.Proofs.Routing.Matching

namespace PlatformCore.Bus

variable {κ : Type}

/-! ## Views of a report -/

/-- The registrations, in the order in which they were made. -/
def registrations (es : List (Entry κ)) : List (Filter × κ) :=
  es.filterMap fun
    | .subscribed _ f c => some (f, c)
    | _ => none

/-- How the work of the consumers ended, in order. -/
def ends (es : List (Entry κ)) : List ((κ × Event) × Ending) :=
  es.filterMap fun
    | .ended c e o => some ((c, e), o)
    | _ => none

def failures (es : List (Entry κ)) : Nat := (ends es).countP (·.2.isFailure)

/-- The events that were taken, each with the table at that moment. -/
def snapshots (t : Table κ) : List (Entry κ) → List (Event × Table κ)
  | [] => []
  | .subscribed _ f c :: es => snapshots (t.insert f c) es
  | .taken e :: es => (e, t) :: snapshots t es
  | _ :: es => snapshots t es

/-- The consumers to be told by a list of snapshots, each with the event. -/
def owed (l : List (Event × Table κ)) : List (κ × Event) :=
  l.flatMap fun s => (s.2.matching s.1).map (·, s.1)

/-- The consumers that are still to be told of the event that is being dispatched. -/
def Phase.untold : Phase κ → List (κ × Event)
  | delivering d | handling d _ => d.pending.map (·, d.event)
  | _ => []

def Phase.atWork : Phase κ → List (κ × Event)
  | handling d c => [(c, d.event)]
  | _ => []

variable {b b' b₁ b₂ : Bus κ} {l : Label κ} {ls : List (Label κ)} {es fs : List (Entry κ)}
  {t : Table κ} {e : Event} {d : Delivery κ} {x : Entry κ}

@[simp] theorem registrations_append :
    registrations (es ++ fs) = registrations es ++ registrations fs := List.filterMap_append

@[simp] theorem ends_append : ends (es ++ fs) = ends es ++ ends fs := List.filterMap_append

@[simp] theorem failures_append : failures (es ++ fs) = failures es + failures fs := by
  simp [failures]

@[simp] theorem owed_append {k m : List (Event × Table κ)} : owed (k ++ m) = owed k ++ owed m :=
  List.flatMap_append

theorem snapshots_append :
    snapshots t (es ++ fs) =
      snapshots t es ++ snapshots (t.insertAll (registrations es)) fs := by
  induction es generalizing t with
  | nil => rfl
  | cons x es ih => cases x <;> simp [snapshots, registrations, Table.insertAll_cons, ih]

theorem idle_next : d.next.untold = [] ∧ d.next.atWork = [] := by
  simp only [Delivery.next]
  split
  · exact ⟨rfl, rfl⟩
  · split <;> exact ⟨rfl, rfl⟩

theorem idle_of_not_isLooping {p : Phase κ} (h : p.isLooping = false) :
    p.untold = [] ∧ p.atWork = [] := by
  cases p with
  | selecting | draining | delivering | handling => cases h
  | _ => exact ⟨rfl, rfl⟩

/-! ## What one move does -/

theorem table_of_moves (h : Moves b l b' es) :
    b'.table = b.table.insertAll (registrations es) := by
  cases h with
  | stall => split <;> rfl
  | _ => rfl

/-- Taking an event puts those whom the table names in front of nobody, and telling one takes the
    first of them off. -/
theorem told_of_moves (h : Moves b l b' es) :
    b.phase.untold ++ owed (snapshots b.table es) = told es ++ b'.phase.untold := by
  cases h with
  | takeEvent hp _ | drain hp _ => simp [hp, begin, told, snapshots, owed, Phase.untold]
  | tell hp hd => simp [hp, hd, told, snapshots, owed, Phase.untold]
  | complete hp hd =>
    simp only [hp, idle_next.1]
    simp [hd, told, snapshots, owed, Phase.untold]
  | endWork hp _ => simp [hp, told, snapshots, owed, Phase.untold]
  | takeStop hp _ | leave hp _ | stop hp | detach hp | release hp | vanish hp =>
    simp [hp, told, snapshots, owed, Phase.untold]
  | stall => split <;> simp [told, snapshots, owed]
  | _ => simp [told, snapshots, owed]

theorem taken_of_moves (h : Moves b l b' es) :
    b.phase.inFlight ++ (snapshots b.table es).map Prod.fst =
      dispatched es ++ b'.phase.inFlight := by
  cases h with
  | complete hp _ =>
    simp only [hp, inFlight_next]
    simp [dispatched, snapshots, Phase.inFlight]
  | takeEvent hp _ | drain hp _ => simp [hp, begin, dispatched, snapshots, Phase.inFlight]
  | tell hp _ | endWork hp _ | takeStop hp _ | leave hp _ | stop hp | detach hp | release hp
  | vanish hp => simp [hp, dispatched, snapshots, Phase.inFlight]
  | stall => split <;> simp [dispatched, snapshots]
  | _ => simp [dispatched, snapshots]

theorem ended_of_moves (h : Moves b l b' es) :
    b.phase.atWork ++ told es = (ends es).map Prod.fst ++ b'.phase.atWork := by
  cases h with
  | complete hp _ =>
    simp only [hp, idle_next.2]
    simp [told, ends, Phase.atWork]
  | takeEvent hp _ | drain hp _ => simp [hp, begin, told, ends, Phase.atWork]
  | tell hp _ | endWork hp _ | takeStop hp _ | leave hp _ | stop hp | detach hp | release hp
  | vanish hp => simp [hp, told, ends, Phase.atWork]
  | stall => split <;> simp [told, ends]
  | _ => simp [told, ends]

theorem consumerFailures_of_moves (h : Moves b l b' es) :
    b'.stats.consumerFailures = b.stats.consumerFailures + failures es := by
  cases h with
  | @endWork _ _ o _ _ => cases ho : o.isFailure <;> simp [failures, ends, ho]
  | stall => split <;> rfl
  | _ => rfl

/-! ## What a run does -/

/-- What holds of a run from the bus `b` to the bus `b'` with the report `es`. -/
structure Delivers (b : Bus κ) (es : List (Entry κ)) (b' : Bus κ) : Prop where
  table_eq : b'.table = b.table.insertAll (registrations es)
  /-- Those who are told are those whom the table named when their event was taken. -/
  told_eq : told es ++ b'.phase.untold = b.phase.untold ++ owed (snapshots b.table es)
  dispatched_eq : dispatched es ++ b'.phase.inFlight =
    b.phase.inFlight ++ (snapshots b.table es).map Prod.fst
  /-- The work of a consumer has ended before the next one is told. -/
  ended_eq : (ends es).map Prod.fst ++ b'.phase.atWork = b.phase.atWork ++ told es
  failures_eq : b'.stats.consumerFailures = b.stats.consumerFailures + failures es
  count_eq : b'.stats.dispatched = b.stats.dispatched + (dispatched es).length

theorem delivers_of_moves (h : Moves b l b' es) : Delivers b es b' where
  table_eq := table_of_moves h
  told_eq := (told_of_moves h).symm
  dispatched_eq := (taken_of_moves h).symm
  ended_eq := (ended_of_moves h).symm
  failures_eq := consumerFailures_of_moves h
  count_eq := (stats_of_moves h).2.2

theorem Delivers.trans (h₁ : Delivers b es b₁) (h₂ : Delivers b₁ fs b₂) :
    Delivers b (es ++ fs) b₂ where
  table_eq := by
    rw [h₂.table_eq, h₁.table_eq, registrations_append, Table.insertAll_append]
  told_eq := by
    have h := h₂.told_eq
    rw [h₁.table_eq] at h
    rw [told_append, List.append_assoc, h, ← List.append_assoc, h₁.told_eq, snapshots_append,
      owed_append, List.append_assoc]
  dispatched_eq := by
    have h := h₂.dispatched_eq
    rw [h₁.table_eq] at h
    rw [dispatched_append, List.append_assoc, h, ← List.append_assoc, h₁.dispatched_eq,
      snapshots_append, List.map_append, List.append_assoc]
  ended_eq := by
    rw [ends_append, List.map_append, List.append_assoc, h₂.ended_eq, ← List.append_assoc,
      h₁.ended_eq, told_append, List.append_assoc]
  failures_eq := by
    rw [h₂.failures_eq, h₁.failures_eq, failures_append, Nat.add_assoc]
  count_eq := by
    rw [h₂.count_eq, h₁.count_eq, dispatched_append, List.length_append, Nat.add_assoc]

theorem delivers_of_run (h : b.run? ls = some (b', es)) : Delivers b es b' := by
  refine run?_induction (P := fun b' es => Delivers b es b') (r := []) ?_ ?_ h
  · exact ⟨rfl, by simp [told, snapshots, owed], by simp [dispatched, snapshots],
      by simp [ends, told], rfl, rfl⟩
  · intro b₁ l b₂ es fs hd hm
    exact hd.trans (delivers_of_moves hm)

/-! ## The part of a run that belongs to one event -/

theorem phase_of_taken (h : Moves b l b' es) (he : .taken e ∈ es) :
    ∃ w, b'.phase = .delivering ⟨e, w, b.table.matching e⟩ := by
  cases h with
  | takeEvent _ _ | drain _ _ =>
    cases List.mem_singleton.1 he
    exact ⟨_, rfl⟩
  | stall => split at he <;> simp at he
  | _ => simp at he

theorem phase_of_dispatched (h : Moves b l b' es) (he : .dispatched e ∈ es) :
    ∃ d, b.phase = .delivering d ∧ d.pending = [] ∧ d.event = e ∧ b'.phase = d.next := by
  cases h with
  | @complete d hp hd =>
    cases List.mem_singleton.1 he
    exact ⟨d, hp, hd, rfl, rfl⟩
  | stall => split at he <;> simp at he
  | _ => simp at he

/-- Once the dispatch thread has left the loop it tells nobody anything. -/
theorem told_of_not_isLooping (h : b.run? ls = some (b', es)) (hl : b.phase.isLooping = false) :
    told es = [] ∧ b'.phase.isLooping = false := by
  refine run?_induction (P := fun b es => told es = [] ∧ b.phase.isLooping = false) (r := [])
    ⟨rfl, hl⟩ ?_ h
  rintro b l b' es fs ⟨ht, hl⟩ hm
  refine ⟨?_, (queue_of_moves hm hl).2⟩
  rw [told_append, ht, List.nil_append]
  cases hm with
  | tell hp _ =>
    rw [hp] at hl
    cases hl
  | stall => split <;> rfl
  | _ => rfl

/-- Between the moment at which an event is taken and the end of its dispatch, those are told whom
    the table named when it was taken, and nobody else, and the work of each of them ends.  If the
    event ends all delivery, nobody is told anything after that. -/
theorem told_of_dispatch {pre mid post : List (Entry κ)} {e' : Event}
    (h : b.run? ls = some (b', pre ++ .taken e :: (mid ++ .dispatched e' :: post)))
    (hm : dispatched mid = []) :
    e' = e ∧
    told mid = ((b.table.insertAll (registrations pre)).matching e).map (·, e) ∧
    (ends mid).map Prod.fst = told mid ∧
    (e.kind.isShutdown = true → told post = [] ∧ b'.phase.isLooping = false) := by
  obtain ⟨_, _, _, b₁, b₂, hpre, htaken, h⟩ := exists_moves_of_split h
  obtain ⟨_, _, _, b₃, b₄, hmid, hdisp, hpost⟩ := exists_moves_of_split h
  obtain ⟨w, hp₂⟩ := phase_of_taken htaken List.mem_cons_self
  obtain ⟨d, hp₃, hpend, rfl, hp₄⟩ := phase_of_dispatched hdisp List.mem_cons_self
  have hd := delivers_of_run hmid
  -- no other event was taken in between
  have hone := hd.dispatched_eq
  simp only [hm, hp₂, hp₃, Phase.inFlight, List.nil_append, List.singleton_append,
    List.cons.injEq, List.nil_eq, List.map_eq_nil_iff] at hone
  obtain ⟨he, hnone⟩ := hone
  refine ⟨he, ?_, ?_, ?_⟩
  · have ht := hd.told_eq
    simp only [hnone, hp₂, hp₃, hpend, Phase.untold, owed, List.map_nil, List.flatMap_nil,
      List.append_nil] at ht
    rw [ht, (delivers_of_run hpre).table_eq]
  · have hw := hd.ended_eq
    simpa only [hp₂, hp₃, Phase.atWork, List.append_nil, List.nil_append] using hw
  · intro hs
    refine told_of_not_isLooping hpost ?_
    rw [hp₄, Delivery.next, he, if_pos hs]
    rfl

/-! ## Runs that differ in how work ends -/

/-- The step, with a good end if it is the end of some work. -/
def Label.mute : Label κ → Label κ
  | endWork _ => endWork .ok
  | l => l

/-- The entry, with a good end if it is the end of some work. -/
def Entry.mute : Entry κ → Entry κ
  | ended c e _ => ended c e .ok
  | x => x

/-- The bus with another number of bad ends. -/
def withFailures (b : Bus κ) (n : Nat) : Bus κ :=
  { b with stats := { b.stats with consumerFailures := n } }

theorem told_map_mute : told (es.map Entry.mute) = told es := by
  rw [told, told, List.filterMap_map]
  refine List.filterMap_congr fun x _ => ?_
  cases x <;> rfl

/-- Nothing but the end of some work looks at how often work came to a bad end. -/
theorem step?_withFailures (n : Nat) (hl : ∀ o, l ≠ .endWork o) :
    (b.withFailures n).step? l = (b.step? l).map fun r => (r.1.withFailures n, r.2) := by
  have hm : ∀ t, (b.withFailures n).mayCall t = b.mayCall t := fun _ => rfl
  have ha : (b.withFailures n).answer = b.answer := rfl
  have hc : (b.withFailures n).calls = b.calls := rfl
  have hp : (b.withFailures n).phase = b.phase := rfl
  have hq : (b.withFailures n).queue = b.queue := rfl
  have hs : (b.withFailures n).isStopRaised = b.isStopRaised := rfl
  cases l with
  | publish t e =>
    simp only [step?, publish?, hm]
    cases b.mayCall t <;> rfl
  | offer t =>
    simp only [step?, offer?, hc, ha]
    rcases b.calls.get? t with _ | ⟨o⟩ | _ | _ | _
    case some.publishing => cases b.answer <;> rfl
    all_goals rfl
  | subscribe t f c =>
    simp only [step?, subscribe?, hm]
    cases b.mayCall t <;> rfl
  | close t =>
    simp only [step?, close?, hm]
    cases b.mayCall t <;> rfl
  | claim t =>
    simp only [step?, claim?, hc]
    rcases b.calls.get? t with _ | ⟨o⟩ | _ | _ | _ <;> rfl
  | finish t =>
    simp only [step?, finish?, hc, hp]
    rcases b.calls.get? t with _ | ⟨o⟩ | _ | _ | _
    case some.joining => cases b.phase.isGone <;> rfl
    case some.awaiting => cases b.phase.isReleased <;> rfl
    all_goals rfl
  | takeEvent =>
    simp only [step?, takeEvent?, hp, hq]
    cases b.phase <;> cases b.queue <;> rfl
  | takeStop =>
    simp only [step?, takeStop?, hp, hs]
    cases b.phase <;> cases b.isStopRaised <;> rfl
  | proceed =>
    simp only [step?, proceed?, hp, hq]
    rcases b.phase with _ | _ | ⟨e, w, _ | ⟨c, cs⟩⟩ | _ | _ | _ | _ | _ | _
    case draining => cases b.queue <;> rfl
    all_goals rfl
  | endWork o => exact absurd rfl (hl o)

theorem endWork?_withFailures {o o' : Ending} (n : Nat) (h : b.endWork? o = some (b', es)) :
    ∃ m fs, (b.withFailures n).endWork? o' = some (b'.withFailures m, fs) ∧
      fs.map Entry.mute = es.map Entry.mute := by
  have hc : (b.withFailures n).calls = b.calls := rfl
  have hp : (b.withFailures n).phase = b.phase := rfl
  simp only [endWork?, hp, hc] at h ⊢
  split at h
  · split at h
    · rename_i hd
      cases h
      rw [if_pos hd]
      exact ⟨_, _, rfl, rfl⟩
    · cases h
  · cases h

/-- A step and one that differs from it in how some work ends do the same, but for the number of bad
    ends. -/
theorem step?_mute {l' : Label κ} (n : Nat) (hl : l'.mute = l.mute)
    (h : b.step? l = some (b', es)) :
    ∃ m fs, (b.withFailures n).step? l' = some (b'.withFailures m, fs) ∧
      fs.map Entry.mute = es.map Entry.mute := by
  by_cases hw : ∃ o, l = .endWork o
  · obtain ⟨o, rfl⟩ := hw
    obtain ⟨o', rfl⟩ : ∃ o', l' = .endWork o' := by
      cases l' with
      | endWork o' => exact ⟨o', rfl⟩
      | _ => cases hl
    exact endWork?_withFailures n h
  · have hl' : l' = l := by
      cases l with
      | endWork o => exact absurd ⟨o, rfl⟩ hw
      | _ =>
        cases l' with
        | endWork => cases hl
        | _ => exact hl
    subst hl'
    rw [step?_withFailures n fun o ho => hw ⟨o, ho⟩, h]
    exact ⟨n, es, rfl, rfl⟩

/-- **A run cannot tell how work ends.** -/
theorem run?_mute {ms : List (Label κ)} (n : Nat) (hm : ms.map Label.mute = ls.map Label.mute)
    (h : b.run? ls = some (b', es)) :
    ∃ m fs, (b.withFailures n).run? ms = some (b'.withFailures m, fs) ∧
      fs.map Entry.mute = es.map Entry.mute := by
  induction ls generalizing b n ms es with
  | nil =>
    cases h
    obtain rfl : ms = [] := by simpa using hm
    exact ⟨n, [], rfl, rfl⟩
  | cons l ls ih =>
    rcases ms with _ | ⟨l', ms⟩
    · cases hm
    · obtain ⟨hl, hm⟩ := List.cons.inj hm
      obtain ⟨b₁, es₁, es₂, hstep, hr, rfl⟩ := run?_cons_eq_some h
      obtain ⟨m₁, fs₁, hstep', he₁⟩ := step?_mute n hl hstep
      obtain ⟨m₂, fs₂, hr', he₂⟩ := ih m₁ hm hr
      refine ⟨m₂, fs₁ ++ fs₂, run?_cons hstep' hr', ?_⟩
      rw [List.map_append, List.map_append, he₁, he₂]

/-! ## Isolation -/

/-- **Consumers cannot disturb each other.**  Between the two ends of any run, those who are told
    are those whom the table named at the moment at which each event was taken, event after event,
    and the counts are those of `Delivers`.  The part of the run that belongs to one event tells
    exactly these, so somebody who registers in this part is not told of this event, but of every
    later one that his filter matches; the work of each has ended before the event counts as
    dispatched, and if it ends all delivery, nobody is told anything after that.  If some work ends
    in another way, the run goes on just the same, and ends in the same state but for the number of
    bad ends.  When the loop is left, all who were to be told were told and have ended their
    work. -/
theorem isolated_of_run (h : b.run? ls = some (b', es)) :
    Delivers b es b' ∧
    (∀ pre e mid e' post, es = pre ++ .taken e :: (mid ++ .dispatched e' :: post) →
      dispatched mid = [] →
      e' = e ∧
      told mid = ((b.table.insertAll (registrations pre)).matching e).map (·, e) ∧
      (∀ f c, (f, c) ∈ registrations pre → f.Matches e → (c, e) ∈ told mid) ∧
      (ends mid).map Prod.fst = told mid ∧
      (e.kind.isShutdown = true → told post = [] ∧ b'.phase.isLooping = false)) ∧
    (∀ ms : List (Label κ), ms.map Label.mute = ls.map Label.mute → ∃ fs,
      b.run? ms = some (b'.withFailures (b.stats.consumerFailures + failures fs), fs) ∧
      fs.map Entry.mute = es.map Entry.mute ∧ told fs = told es) ∧
    (b'.phase.isLooping = false → told es = b.phase.untold ++ owed (snapshots b.table es) ∧
      (ends es).map Prod.fst = b.phase.atWork ++ told es) := by
  have hd := delivers_of_run h
  refine ⟨hd, ?_, ?_, ?_⟩
  · rintro pre e mid e' post rfl hm
    obtain ⟨he, ht, hw, hs⟩ := told_of_dispatch h hm
    refine ⟨he, ht, fun f c hf hme => ?_, hw, hs⟩
    rw [ht]
    exact List.mem_map.2 ⟨c, Table.mem_matching_insertAll hf hme, rfl⟩
  · intro ms hm
    obtain ⟨m, fs, hr, he⟩ := run?_mute b.stats.consumerFailures hm h
    have hr : b.run? ms = some (b'.withFailures m, fs) := hr
    -- the other run counts its own bad ends
    obtain rfl : m = b.stats.consumerFailures + failures fs := (delivers_of_run hr).failures_eq
    exact ⟨fs, hr, he, by rw [← told_map_mute, he, told_map_mute]⟩
  · intro hl
    obtain ⟨hu, hw⟩ := idle_of_not_isLooping hl
    constructor
    · rw [← hd.told_eq, hu, List.append_nil]
    · rw [← hd.ended_eq, hw, List.append_nil]

/-- A consumer registers another one and panics, and fails at the next event, which ends all
    delivery. -/
def clumsyRun : List (Label Nat) :=
  let first : Event := { originator := none, kind := ⟨"a"⟩, description := "" }
  let last : Event := .platformShutdown ⟨"b"⟩
  [.subscribe (.caller 0) ⟨none, none⟩ 0, .publish (.caller 0) first, .offer (.caller 0),
    .takeEvent, .proceed, .subscribe .dispatch ⟨none, none⟩ 1, .endWork (.panicked "oops"),
    .proceed, .publish (.caller 0) last, .offer (.caller 0), .takeEvent, .proceed,
    .endWork (.failed "no"), .proceed, .endWork .ok, .proceed]

theorem isolated_of_run_clumsy :
    ∃ b₀ b b' es fs, start 2 = .ok b₀ ∧ b₀.run? clumsyRun = some (b, es) ∧
      (told es).map Prod.fst = [0, 0, 1] ∧ b.stats.consumerFailures = 2 ∧
      told es = owed (snapshots .empty es) ∧
      b₀.run? (clumsyRun.map Label.mute) = some (b', fs) ∧ told fs = told es ∧
      b'.stats.consumerFailures = 0 := by
  obtain ⟨hd, -, hmute, hleft⟩ := @isolated_of_run Nat
    { capacity := 2, capacity_pos := by decide } _ clumsyRun _ rfl
  obtain ⟨fs, hr, -, ht⟩ := hmute (clumsyRun.map Label.mute) rfl
  obtain rfl : _ = fs := (Prod.mk.inj (Option.some.inj (Eq.trans rfl hr))).2
  exact ⟨_, _, _, _, _, rfl, rfl, rfl, hd.failures_eq, (hleft rfl).1, hr, ht, rfl⟩

end PlatformCore.Bus
