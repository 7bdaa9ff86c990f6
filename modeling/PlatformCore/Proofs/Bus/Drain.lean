/-
  How long the dispatch thread works off the queue.

  Once it has taken the stop signal the dispatch thread takes events until it finds none.  That is
  not the number of events that waited when it took the signal: what comes into the queue meanwhile
  is dispatched as well.  So the work is bounded by both together, and if a consumer publishes
  whatever it is told, by nothing.

  * `Phase.tail` is what the dispatch thread has still to do where there is no event to take, and
    `tail_of_moves` says that all else it does is reported as work on an event;
  * `countP_isInside_le`: how many steps the dispatch thread makes;
  * `exists_step_of_isFull_eq_false`: until it has ended somebody can go on, if the queue has room;
  * `drained_of_run`: what is dispatched after the stop signal, and when the dispatch thread ends;
  * `Echoes` is a bus whose consumer publishes what it is told, and `not_bounded_of_echo` says that
    no number bounds what such a bus dispatches.
-/
import PlatformCore.Proofs.Bus.Isolation
import PlatformCore.Proofs.Bus.Rest

namespace PlatformCore.Bus

variable {κ : Type} {b b' b₀ b₁ : Bus κ} {l : Label κ} {ls ms : List (Label κ)}
  {es fs gs : List (Entry κ)} {d : Delivery κ} {n : Nat}

/-! ## Steps of the dispatch thread -/

/-- The number of steps that the dispatch thread makes when there is no more event to take. -/
def Phase.tail : Phase κ → Nat
  | selecting => 6
  | draining => 5
  | delivering d | handling d _ => if d.isDraining then 5 else 6
  | leaving => 4
  | stopped => 3
  | detached => 2
  | released => 1
  | gone => 0

def Entry.isWork : Entry κ → Bool
  | taken _ | told _ _ | ended _ _ _ | dispatched _ => true
  | _ => false

theorem tail_next_le : d.next.tail ≤ if d.isDraining then 5 else 6 := by
  simp only [Delivery.next]
  split
  · split <;> simp [Phase.tail]
  · split <;> exact Nat.le_refl _

/-- A step of the dispatch thread is work on an event, or brings the thread nearer to its end. -/
theorem tail_of_moves (h : Moves b l b' es) :
    (if l.isInside then 1 else 0) + b'.phase.tail ≤ b.phase.tail + es.countP Entry.isWork := by
  cases h with
  | takeEvent hp _ | drain hp _ => simp [hp, begin, Label.isInside, Phase.tail, Entry.isWork]
  | takeStop hp _ | leave hp _ | stop hp | detach hp | release hp | vanish hp =>
    simp [hp, Label.isInside, Phase.tail]
  | tell hp _ | endWork hp _ =>
    simp [hp, Label.isInside, Phase.tail, Entry.isWork, Nat.add_comm]
  | @complete d hp _ =>
    have hn : d.next.tail ≤ if d.isDraining then 5 else 6 := tail_next_le
    rw [hp]
    change 1 + d.next.tail ≤ (if d.isDraining then 5 else 6) + 1
    omega
  | _ => simp [Label.isInside]

theorem countP_isInside_add_tail_le (h : b.run? ls = some (b', es)) :
    ls.countP Label.isInside + b'.phase.tail ≤ b.phase.tail + es.countP Entry.isWork := by
  induction ls generalizing b es with
  | nil =>
    cases h
    exact Nat.le_of_eq (Nat.add_comm _ _)
  | cons l ls ih =>
    obtain ⟨b₁, es₁, es₂, hstep, hr, rfl⟩ := run?_cons_eq_some h
    have h₁ := tail_of_moves (moves_of_step? hstep)
    have h₂ := ih hr
    rw [List.countP_cons, List.countP_append]
    omega

/-! ## Work on events -/

theorem countP_isWork (t : Table κ) :
    es.countP Entry.isWork = (snapshots t es).length + (told es).length + (ends es).length +
      (dispatched es).length := by
  induction es generalizing t with
  | nil => rfl
  | cons x es ih =>
    rw [List.countP_cons]
    cases x with
    | subscribed u f c =>
      rw [ih (t.insert f c)]
      rfl
    | taken e | told c e | ended c e o | dispatched e =>
      rw [ih t]
      simp only [Entry.isWork, snapshots, told, ends, dispatched, List.filterMap_cons,
        List.length_cons, if_true]
      omega
    | _ =>
      rw [ih t]
      rfl

/-- Each event is put in front of as many consumers as were registered, at most. -/
theorem length_owed_snapshots_le (rs : List (Filter × κ)) (es : List (Entry κ)) :
    (owed (snapshots (Table.empty.insertAll rs) es)).length ≤
      (snapshots (Table.empty.insertAll rs) es).length *
        (rs.length + (registrations es).length) := by
  induction es generalizing rs with
  | nil => exact Nat.zero_le _
  | cons x es ih =>
    cases x with
    | subscribed u f c =>
      have h := ih (rs ++ [(f, c)])
      rw [Table.insertAll_append, List.length_append, Nat.add_assoc, Nat.add_comm [(f, c)].length]
        at h
      exact h
    | taken e =>
      have h₁ : ((Table.empty.insertAll rs).matching e).length ≤ rs.length :=
        Table.length_matching_insertAll_le
      have h₂ := ih rs
      simp only [snapshots, owed, List.flatMap_cons, List.length_append, List.length_map,
        List.length_cons, Nat.succ_mul] at h₂ ⊢
      change _ ≤ _ * (rs.length + (registrations es).length) +
        (rs.length + (registrations es).length)
      omega
    | _ => exact ih rs

/-- Between the two ends of a run events keep their order, and none is missing or doubled. -/
theorem fifo_between (h : b.run? ls = some (b', es)) :
    b.phase.inFlight ++ b.queue ++ accepted es =
      dispatched es ++ (b'.phase.inFlight ++ b'.queue) := by
  refine run?_induction (P := fun b' es => b.phase.inFlight ++ b.queue ++ accepted es =
    dispatched es ++ (b'.phase.inFlight ++ b'.queue)) (r := []) ?_ ?_ h
  · exact List.append_nil _
  · intro b₁ l b₂ es fs ih hm
    have h := fifo_of_moves hm
    rw [accepted_append, ← List.append_assoc, ih, List.append_assoc, h, dispatched_append,
      List.append_assoc]

/-- The work on events is bounded by their number and that of all registrations. -/
theorem countP_isWork_le {rs : List (Filter × κ)} (ht : b.table = Table.empty.insertAll rs)
    (hp : b.phase = .draining) (h : b.run? ms = some (b', fs)) :
    fs.countP Entry.isWork ≤
      (b.queue.length + (accepted fs).length) * (2 + 2 * b'.table.size) := by
  have hd := delivers_of_run h
  have hsize : b'.table.size = rs.length + (registrations fs).length := by
    rw [hd.table_eq, ht, Table.size_insertAll, Table.size_insertAll]
    exact congrArg (· + _) (Nat.zero_add _)
  have howed := length_owed_snapshots_le rs fs
  have htold := congrArg List.length hd.told_eq
  have hended := congrArg List.length hd.ended_eq
  have hdisp := congrArg List.length hd.dispatched_eq
  have hfifo := congrArg List.length (fifo_between h)
  rw [← hsize, ← ht] at howed
  simp only [hp, Phase.untold, Phase.atWork, Phase.inFlight, List.nil_append, List.length_append,
    List.length_map] at htold hended hdisp hfifo
  -- an event was taken if it was dispatched, or is being dispatched
  have hsnap : (snapshots b.table fs).length ≤ b.queue.length + (accepted fs).length := by omega
  have hmul := Nat.mul_le_mul_right (2 + 2 * b'.table.size) hsnap
  rw [countP_isWork b.table]
  rw [Nat.mul_add, Nat.mul_left_comm] at hmul
  omega

/-- How many steps the dispatch thread makes after it has taken the stop signal. -/
theorem countP_isInside_le {rs : List (Filter × κ)} (ht : b.table = Table.empty.insertAll rs)
    (hp : b.phase = .draining) (h : b.run? ms = some (b', fs)) :
    ms.countP Label.isInside ≤
      (b.queue.length + (accepted fs).length) * (2 + 2 * b'.table.size) + 5 := by
  have hi := countP_isInside_add_tail_le h
  have hw := countP_isWork_le ht hp h
  have hb : b.phase.tail = 5 := by rw [hp]; rfl
  omega

/-! ## The end of the dispatch thread -/

/-- If the queue has room, a publish call on the dispatch thread returns with its next step. -/
theorem exists_offer_of_isFull_eq_false {o : Offer}
    (hc : b.calls.get? .dispatch = some (.publishing o)) (hf : b.isFull = false) :
    ∃ b' es, b.step? (.offer .dispatch) = some (b', es) ∧ b'.calls.get? .dispatch = none := by
  simp only [step?, offer?, hc]
  rcases ha : b.phase.isAttached with _ | _
  · rw [answer_eq_disconnected_iff.2 ha]
    exact ⟨_, _, rfl, Registry.get?_erase_self⟩
  · have hq : b.queue.length < b.capacity := by simpa [isFull] using hf
    rw [answer_eq_accepted_iff.2 ⟨ha, hq⟩]
    exact ⟨_, _, rfl, Registry.get?_erase_self⟩

theorem signalled_of_run (hb : Signalled b) (h : b.run? ls = some (b', es)) : Signalled b' :=
  run?_induction (P := fun b _ => Signalled b) (r := []) hb
    (fun _ _ _ _ _ hb hm => signalled_of_moves hm hb) h

/-- The dispatch thread can go on until it has ended, if a publish call of its own finds room. -/
theorem exists_step_of_isFull_eq_false (ha : Answered b) (hs : Signalled b)
    (hg : b.phase.isGone = false) (hf : b.isFull = false) :
    ∃ l b' es, b.step? l = some (b', es) ∧
      (l.isInside = true ∨ l = .offer .dispatch ∧ b'.calls.get? .dispatch = none) := by
  rcases hc : b.calls.get? .dispatch with _ | c
  · obtain ⟨l, hl, hstep⟩ := exists_isInside_step hs hc hg
    obtain ⟨⟨b', es⟩, hstep⟩ := Option.isSome_iff_exists.1 hstep
    exact ⟨l, b', es, hstep, .inl hl⟩
  · have hi := ha.outside c hc
    cases c with
    | publishing o =>
      obtain ⟨b', es, hstep, hn⟩ := exists_offer_of_isFull_eq_false hc hf
      exact ⟨_, b', es, hstep, .inr ⟨rfl, hn⟩⟩
    | _ => cases hi

/-! ## What is dispatched after the stop signal -/

theorem length_belated_le (h : b.run? ls = some (b', es)) :
    (b.belated ls).length ≤ (accepted es).length := by
  induction ls generalizing b es with
  | nil => exact Nat.zero_le _
  | cons l ls ih =>
    obtain ⟨b₁, es₁, es₂, hstep, hr, rfl⟩ := run?_cons_eq_some h
    have := ih hr
    simp only [belated, hstep, accepted_append, List.length_append]
    split <;> simp <;> omega

/-- If the queue was worked off, all was dispatched that came into it before the last look. -/
theorem dispatched_append_belated (hp : b.phase = .draining) (h : b.run? ms = some (b', fs))
    (hl : b'.phase.isLooping = false) (hs : ∀ e ∈ dispatched fs, e.kind.isShutdown = false) :
    dispatched fs ++ b.belated ms = b.queue ++ accepted fs := by
  have h₀ : LeavesBehind b [] [] :=
    ⟨fun _ => rfl, fun hn => by rw [hp] at hn; cases hn⟩
  have hq : b'.queue = b.belated ms := (leavesBehind_of_run h₀ h).queue_eq hl hs
  have hf := fifo_between h
  rw [hp, inFlight_of_not_isLooping hl, hq] at hf
  exact hf.symm

theorem length_dispatched_le_iff (h : b.run? ms = some (b', fs))
    (hd : dispatched fs ++ b.belated ms = b.queue ++ accepted fs) :
    (dispatched fs).length ≤ b.queue.length ↔ b.belated ms = accepted fs := by
  constructor
  · intro hle
    have hlen := congrArg List.length hd
    have hbel := length_belated_le h
    rw [List.length_append, List.length_append] at hlen
    exact (List.append_inj' hd (by omega)).2
  · intro he
    rw [he] at hd
    exact Nat.le_of_eq (congrArg List.length (List.append_cancel_right hd))

/-- **What is dispatched after the stop signal.**  Once the dispatch thread has taken the signal,
    what it dispatches is what waited then and what came into the queue since, in this order.  When
    it has left the loop without an event that ends all delivery, this is all that came before its
    last look at the queue; so no more was dispatched than had waited exactly if nothing came before
    that.  The thread makes no more steps than in proportion to the number of these events and of
    the consumers, and until it has ended it can make another one, or a consumer of its own that
    publishes can go on, as long as the queue has room.  When it has ended, so can every close call
    that is under way. -/
theorem drained_of_run (h₀ : start n = .ok b₀) (h₁ : b₀.run? ls = some (b₁, es))
    (hs : b₁.step? .takeStop = some (b, gs)) (h : b.run? ms = some (b', fs)) :
    dispatched fs ++ b'.phase.inFlight ++ b'.queue = b.queue ++ accepted fs ∧
    (b'.phase.isLooping = false → (∀ e ∈ dispatched fs, e.kind.isShutdown = false) →
      dispatched fs ++ b.belated ms = b.queue ++ accepted fs ∧
      ((dispatched fs).length ≤ b.queue.length ↔ b.belated ms = accepted fs)) ∧
    ms.countP Label.isInside ≤
      (b.queue.length + (accepted fs).length) * (2 + 2 * b'.table.size) + 5 ∧
    (b'.phase.isGone = false → b'.isFull = false → ∃ l b₂ js, b'.step? l = some (b₂, js) ∧
      (l.isInside = true ∨ l = .offer .dispatch ∧ b₂.calls.get? .dispatch = none)) ∧
    (b'.phase.isGone = true → ∀ t c, b'.calls.get? t = some c → c.isClose = true →
      ∃ l : Label κ, (l = .claim t ∨ l = .finish t) ∧ (b'.step? l).isSome = true) := by
  obtain ⟨hp, ht⟩ : b.phase = .draining ∧ b.table = b₁.table := by
    cases moves_of_step? hs
    exact ⟨rfl, rfl⟩
  have htable : b.table = Table.empty.insertAll (registrations es) := by
    obtain ⟨hn, rfl⟩ := start_eq_ok h₀
    exact ht.trans (delivers_of_run h₁).table_eq
  refine ⟨?_, ?_, ?_, ?_, ?_⟩
  · have hf := fifo_between h
    rw [hp, ← List.append_assoc] at hf
    exact hf.symm
  · intro hl hsd
    have hd := dispatched_append_belated hp h hl hsd
    exact ⟨hd, length_dispatched_le_iff h hd⟩
  · exact countP_isInside_le htable hp h
  · intro hg hf
    have hans := answered_of_run h₀ (run?_append h₁ (run?_cons hs h))
    have hsig : Signalled b := .inr (.inl (by rw [hp]; rfl))
    exact exists_step_of_isFull_eq_false hans (signalled_of_run hsig h) hg hf
  · intro hg t c hc hi
    exact exists_step_of_isGone hg hc hi

/-! ## Echoes -/

/-- The bus is closed while an event waits whose consumer publishes what it is told. -/
def echoStart : List (Label Unit) :=
  [.subscribe (.caller 0) ⟨none, none⟩ (), .publish (.caller 0) blankEvent, .offer (.caller 0),
    .close (.caller 0)]

/-- The event is dispatched, and the consumer publishes it. -/
def echo : List (Label Unit) :=
  [.proceed, .proceed, .publish .dispatch blankEvent, .offer .dispatch, .endWork .ok, .proceed]

/-- The event is dispatched, and the consumer leaves it at that. -/
def echoEnd : List (Label Unit) :=
  [.proceed, .proceed, .endWork .ok, .proceed, .proceed, .proceed, .proceed, .proceed, .proceed]

theorem drained_of_run_echo :
    ∃ b₀ b₁ es b b' fs, start 1 = .ok b₀ ∧ b₀.run? echoStart = some (b₁, es) ∧
      b₁.step? .takeStop = some (b, []) ∧ b.run? (echo ++ echoEnd) = some (b', fs) ∧
      b.queue.length = 1 ∧ dispatched fs = [blankEvent, blankEvent] ∧
      dispatched fs ++ b.belated (echo ++ echoEnd) = b.queue ++ accepted fs ∧
      ∃ l : Label Unit, (l = .claim (.caller 0) ∨ l = .finish (.caller 0)) ∧
        (b'.step? l).isSome = true := by
  obtain ⟨-, hleft, -, -, hgone⟩ := @drained_of_run Unit _ _ _ _ echoStart (echo ++ echoEnd) _ _ _ 1
    rfl rfl rfl rfl
  exact ⟨_, _, _, _, _, _, rfl, rfl, rfl, rfl, rfl, rfl, (hleft rfl (by decide)).1,
    hgone rfl (.caller 0) .closing rfl rfl⟩

/-- The queue is worked off, an event waits, and its consumer alone is to be told of it. -/
structure Echoes (b : Bus Unit) : Prop where
  phase_eq : b.phase = .draining
  queue_eq : b.queue = [blankEvent]
  matching_eq : b.table.matching blankEvent = [()]
  calls_eq : b.calls.get? .dispatch = none

def echoReport : List (Entry Unit) :=
  [.taken blankEvent, .told () blankEvent, .offered .dispatch blankEvent,
    .accepted .dispatch blankEvent, .ended () blankEvent .ok, .dispatched blankEvent]

/-- The bus after an echo: a publish call has come and gone, and the event was counted. -/
def echoed (b : Bus Unit) : Bus Unit :=
  { b with
    calls := (b.calls.insert .dispatch (.publishing ⟨blankEvent, false⟩)).erase .dispatch
    stats := { b.stats with
      published := b.stats.published + 1
      dispatched := b.stats.dispatched + 1 } }

theorem Echoes.echoed {b : Bus Unit} (h : Echoes b) : Echoes b.echoed :=
  ⟨h.phase_eq, h.queue_eq, h.matching_eq, Registry.get?_erase_self⟩

theorem Echoes.run?_echo {b : Bus Unit} (h : Echoes b) :
    b.run? echo = some (b.echoed, echoReport) := by
  obtain ⟨cap, hcap, queue, raised, handle, phase, calls, table, stats⟩ := b
  obtain ⟨hp, hq, hm, hc⟩ := h
  simp only at hp hq hm hc
  subst hp hq
  have hroom : ¬ cap ≤ 0 := Nat.not_le_of_gt hcap
  have hgo : blankEvent.kind.isShutdown = false := by decide
  simp [echo, run?, step?, proceed?, begin, hm, publish?, mayCall, hc, offer?, receive, answer,
    isFull, hroom, Phase.isAttached, Phase.isHandling, endWork?, Delivery.next, hgo, echoReport,
    Bus.echoed, Ending.isFailure]

def echoes : Nat → List (Label Unit)
  | 0 => []
  | k + 1 => echo ++ echoes k

/-- However many echoes there are, the queue has room for each, and every consumer returns. -/
theorem Echoes.run?_echoes {b : Bus Unit} (h : Echoes b) (k : Nat) :
    ∃ b' fs, b.run? (echoes k) = some (b', fs) ∧ (dispatched fs).length = k ∧
      (ends fs).map Prod.fst = told fs ∧ ∀ x ∈ fs, x ∈ echoReport := by
  induction k generalizing b with
  | zero => exact ⟨b, [], rfl, rfl, rfl, nofun⟩
  | succ k ih =>
    obtain ⟨b', fs, hr, hd, he, hx⟩ := ih h.echoed
    refine ⟨b', echoReport ++ fs, run?_append h.run?_echo hr, ?_, ?_, ?_⟩
    · rw [dispatched_append, List.length_append, hd]
      exact Nat.add_comm 1 k
    · rw [ends_append, told_append, List.map_append, he]
      rfl
    · intro x hm
      exact (List.mem_append.1 hm).elim id (hx x)

theorem exists_echoes :
    ∃ (b₀ b₁ b : Bus Unit) (es : List (Entry Unit)), start 1 = .ok b₀ ∧
      b₀.run? echoStart = some (b₁, es) ∧ b₁.step? .takeStop = some (b, []) ∧ Echoes b :=
  ⟨_, _, _, _, rfl, rfl, rfl, rfl, rfl, rfl, rfl⟩

/-- **No number bounds the draining.**  All consumers return, the queue has room for whatever they
    publish, and nobody else publishes anything; yet what is dispatched after the stop signal is not
    bounded by any function of the number of events that waited when it was taken. -/
theorem not_bounded_of_echo :
    ¬ ∃ f : Nat → Nat, ∀ (n : Nat) (b₀ b₁ b b' : Bus Unit) (ls ms : List (Label Unit))
        (es gs fs : List (Entry Unit)),
      start n = .ok b₀ → b₀.run? ls = some (b₁, es) → b₁.step? .takeStop = some (b, gs) →
      b.run? ms = some (b', fs) → (ends fs).map Prod.fst = told fs →
      (∀ t e, .stalled t e ∉ fs) → (∀ p ∈ offers fs, p.1 = .dispatch) →
      (dispatched fs).length ≤ f b.queue.length := by
  rintro ⟨f, hf⟩
  obtain ⟨b₀, b₁, b, es, h₀, h₁, hs, hb⟩ := exists_echoes
  obtain ⟨b', fs, hr, hd, he, hx⟩ := hb.run?_echoes (f 1 + 1)
  have hle := hf 1 b₀ b₁ b b' echoStart _ es [] fs h₀ h₁ hs hr he ?_ ?_
  · rw [hd, hb.queue_eq] at hle
    exact Nat.not_succ_le_self _ hle
  · intro t e hm
    have hm : .stalled t e ∈ echoReport := hx _ hm
    simp [echoReport] at hm
  · intro p hp
    obtain ⟨x, hm, ho⟩ := List.mem_filterMap.1 hp
    have hp : p ∈ offers echoReport := List.mem_filterMap.2 ⟨x, hx x hm, ho⟩
    obtain rfl : p = (.dispatch, blankEvent) := List.mem_singleton.1 hp
    rfl

end PlatformCore.Bus
