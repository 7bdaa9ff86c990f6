/-
  How publish calls hand over their events.

  A publish call offers its event again and again, until the queue takes it or nobody will.  The
  event stays the same from offer to offer, it comes into the queue once or not at all, and it is
  counted on one side or the other; that the queue was full is said once, however often it was.

  * a `Handover` is a publish call that has returned: its event, how often it found the queue full,
    and whether the queue took the event in the end;
  * `call?` carries out a publish call that is given its answers, and `call?_answers` says what it
    comes to;
  * `tries` are the offers that a run makes, each with the answer of the queue, and `call?_of_run?`
    says that a run of nothing but one call is this call, given these answers;
  * `Deed` is what a step is to the publish calls, and `deed_of_moves` says that every move is one;
  * `Ledger` is what is kept of the publish calls of a run, and `ledger_of_deed` says that every deed
    keeps it;
  * `handed_over_once`: a publish call under any answers, and all publish calls of any run.
-/
import PlatformCore.Bus.Report
import PlatformCore.Proofs.Bus.Drain

namespace PlatformCore.Bus

variable {κ : Type}

/-! ## Publish calls -/

def Call.offer? : Call → Option Offer
  | publishing o => some o
  | _ => none

/-- What the publish call of a thread offers, if one is under way. -/
def offering (calls : Registry Thread Call) (t : Thread) : Option Offer :=
  (calls.get? t).bind Call.offer?

/-- A publish call that has returned. -/
structure Handover where
  thread : Thread
  event : Event
  /-- How often it found the queue full. -/
  waits : Nat
  /-- Whether the queue took the event in the end; else nobody took events any more. -/
  isAccepted : Bool
deriving DecidableEq, Repr

/-- An offer to the queue, and the answer. -/
structure Try where
  thread : Thread
  event : Event
  answer : Answer
deriving DecidableEq, Repr

/-- What is reported of a publish call that has found the queue full a number of times. -/
def opening (t : Thread) (e : Event) (waits : Nat) : List (Entry κ) :=
  .offered t e :: if waits = 0 then [] else [.stalled t e]

/-- The offers of a publish call that has found the queue full a number of times. -/
def waiting (t : Thread) (e : Event) (waits : Nat) : List Try :=
  List.replicate waits ⟨t, e, .timedOut⟩

namespace Handover

def answer (h : Handover) : Answer := if h.isAccepted then .accepted else .disconnected

def answers (h : Handover) : List Answer := List.replicate h.waits .timedOut ++ [h.answer]

/-- The offers, which all show the same event. -/
def tries (h : Handover) : List Try := h.answers.map (⟨h.thread, h.event, ·⟩)

def ending (h : Handover) : Entry κ :=
  if h.isAccepted then .accepted h.thread h.event else .refused h.thread h.event

def report (h : Handover) : List (Entry κ) := opening h.thread h.event h.waits ++ [h.ending]

def warnings (b : Bus κ) (h : Handover) : List Log.Record :=
  (if h.waits = 0 then [] else
    [{ level := .warn, target := target, message := "Event queue full, producer waiting"
       fields := [("capacity", .number b.capacity), ("event_type", .text h.event.kind.name)] }]) ++
  (if h.isAccepted then [] else
    [{ level := .warn, target := target, message := "Event dropped (dispatcher stopped)"
       fields := [("event_id", .text h.event.id.text), ("event_type", .text h.event.kind.name)] }])

def settle (b : Bus κ) (h : Handover) : Bus κ :=
  { b with
    queue := b.queue ++ if h.isAccepted then [h.event] else []
    stats := { b.stats with
      published := b.stats.published + if h.isAccepted then 1 else 0
      dropped := b.stats.dropped + if h.isAccepted then 0 else 1 } }

end Handover

variable {b b' : Bus κ} {l : Label κ} {ls : List (Label κ)} {es fs : List (Entry κ)}
  {t u : Thread} {e : Event} {o : Offer} {c : Call} {calls : Registry Thread Call}
  {ts us : List Try} {hs : List Handover} {h : Handover} {k m : List (Thread × Event)}

theorem offering_insert :
    offering (calls.insert u c) t = if t = u then c.offer? else offering calls t := by
  simp only [offering, Registry.get?_insert]
  split <;> rfl

theorem offering_erase :
    offering (calls.erase u) t = if t = u then none else offering calls t := by
  simp only [offering, Registry.get?_erase]
  split <;> rfl

theorem offering_of_get? (hc : calls.get? t = some c) : offering calls t = c.offer? := by
  simp [offering, hc]

theorem offering_of_mayCall (hm : b.mayCall t = true) : offering b.calls t = none := by
  simp [offering, get?_of_mayCall hm]

theorem offering_insert_of_none (hu : offering calls u = none) (hc : c.offer? = none) :
    offering (calls.insert u c) t = offering calls t := by
  rw [offering_insert]
  split
  · rename_i ht; rw [ht, hu, hc]
  · rfl

theorem pending_eq_offering : pending calls t = (offering calls t).toList.map (·.event) := by
  simp only [pending, offering]
  rcases calls.get? t with _ | c
  · rfl
  · cases c <;> rfl

theorem offering_eq_none_iff : offering calls t = none ↔ pending calls t = [] := by
  simp [pending_eq_offering]

/-! ## One call -/

/-- The rest of a publish call that is given its answers, while nothing else happens: the bus and
    the report when it returns, which it does with the last answer, and the events that it
    offered. -/
def hear? (b : Bus κ) (t : Thread) : List Answer → Option (Bus κ × List (Entry κ) × List Event)
  | [] => if offering b.calls t = none then some (b, [], []) else none
  | a :: as => do
    let o ← offering b.calls t
    let (b₁, es) := b.receive t o a
    let (b₂, fs, shown) ← b₁.hear? t as
    return (b₂, es ++ fs, o.event :: shown)

/-- A publish call that is given its answers. -/
def call? (b : Bus κ) (t : Thread) (e : Event) (as : List Answer) :
    Option (Bus κ × List (Entry κ) × List Event) := do
  let (b₁, es) ← b.publish? t e
  let (b₂, fs, shown) ← b₁.hear? t as
  return (b₂, es ++ fs, shown)

def withOffer (b : Bus κ) (t : Thread) (o : Offer) : Bus κ :=
  { b with calls := b.calls.insert t (.publishing o) }

@[simp] theorem offering_withOffer : offering (b.withOffer t o).calls t = some o := by
  rw [withOffer, offering_insert, if_pos rfl]
  rfl

theorem receive_timedOut :
    (b.withOffer t o).receive t o .timedOut =
      (b.withOffer t { o with hasWaited := true },
        if o.hasWaited then [] else [.stalled t o.event]) := by
  simp only [withOffer, receive, Registry.insert_insert]

theorem receive_answer {w : Bool} (hc : b.calls.get? h.thread = none) :
    (b.withOffer h.thread ⟨h.event, w⟩).receive h.thread ⟨h.event, w⟩ h.answer =
      (h.settle b, [h.ending]) := by
  obtain ⟨t, e, n, _ | _⟩ := h <;>
    simp only [withOffer, receive, Handover.answer, Handover.settle, Handover.ending,
      Registry.erase_insert hc, if_true, if_false, Bool.false_eq_true, List.append_nil,
      Nat.add_zero]

/-- However often the queue is full, the call ends as the last answer tells.  The flag tells whether
    it was full before. -/
theorem hear?_replicate {w : Bool} (n : Nat) (hc : b.calls.get? h.thread = none) :
    (b.withOffer h.thread ⟨h.event, w⟩).hear? h.thread
        (List.replicate n .timedOut ++ [h.answer]) =
      some (h.settle b,
        (if n = 0 ∨ w = true then [] else [.stalled h.thread h.event]) ++ [h.ending],
        List.replicate (n + 1) h.event) := by
  induction n generalizing w with
  | zero =>
    have hs : offering (h.settle b).calls h.thread = none := by
      change offering b.calls h.thread = none
      rw [offering, hc, Option.bind_none]
    simp [hear?, receive_answer hc, hs]
  | succ n ih =>
    -- the queue is full once more, and from now on the flag is set
    simp only [List.replicate_succ, List.cons_append, hear?, offering_withOffer, receive_timedOut,
      ih, Option.bind_eq_bind, Option.bind_some]
    rcases w with _ | _ <;> simp

theorem call?_answers (hm : b.mayCall h.thread = true) :
    b.call? h.thread h.event h.answers =
      some (h.settle b, h.report, List.replicate (h.waits + 1) h.event) := by
  have hp : b.publish? h.thread h.event =
      some (b.withOffer h.thread ⟨h.event, false⟩, [.offered h.thread h.event]) := if_pos hm
  simp only [call?, hp, Handover.answers, hear?_replicate h.waits (get?_of_mayCall hm),
    Option.bind_eq_bind, Option.bind_some]
  simp [Handover.report, opening]

theorem filterMap_report (nameOf : κ → String) :
    (h.report : List (Entry κ)).filterMap (Entry.record? b nameOf) = h.warnings b := by
  obtain ⟨t, e, _ | n, _ | _⟩ := h <;> rfl

/-! ## What a step is to the publish calls -/

def triesOf (b : Bus κ) : Label κ → List Try
  | .offer t => (pending b.calls t).map (⟨t, ·, b.answer⟩)
  | _ => []

/-- The offers that a run makes, in order. -/
def tries (b : Bus κ) : List (Label κ) → List Try
  | [] => []
  | l :: ls =>
    match b.step? l with
    | none => []
    | some (b', _) => b.triesOf l ++ b'.tries ls

def Entry.publisher? : Entry κ → Option Thread
  | offered t _ | accepted t _ | stalled t _ | refused t _ => some t
  | _ => none

/-- What is reported of the publish calls of a thread. -/
def reportOf (t : Thread) (es : List (Entry κ)) : List (Entry κ) :=
  es.filter (·.publisher? = some t)

@[simp] theorem reportOf_append : reportOf t (es ++ fs) = reportOf t es ++ reportOf t fs :=
  List.filter_append ..

/-- What a step is to the publish calls: one of them begins, waits or returns, or it is nothing to
    any of them. -/
inductive Deed (b b' : Bus κ) : List (Entry κ) → List Try → Prop
  | call {t : Thread} {e : Event} (hb : offering b.calls t = none)
      (hb' : ∀ u, offering b'.calls u = if u = t then some ⟨e, false⟩ else offering b.calls u) :
    Deed b b' [.offered t e] []
  | wait {t : Thread} {o : Offer} (hb : offering b.calls t = some o)
      (hb' : ∀ u, offering b'.calls u =
        if u = t then some { o with hasWaited := true } else offering b.calls u) :
    Deed b b' (if o.hasWaited then [] else [.stalled t o.event]) [⟨t, o.event, .timedOut⟩]
  | settle {t : Thread} {o : Offer} (isAccepted : Bool) (hb : offering b.calls t = some o)
      (hb' : ∀ u, offering b'.calls u = if u = t then none else offering b.calls u) :
    Deed b b' [if isAccepted then .accepted t o.event else .refused t o.event]
      [⟨t, o.event, if isAccepted then .accepted else .disconnected⟩]
  | rest {es : List (Entry κ)} (he : ∀ x ∈ es, x.publisher? = none)
      (hb' : ∀ u, offering b'.calls u = offering b.calls u) : Deed b b' es []

theorem offer?_eq : b.offer? t = (offering b.calls t).map (b.receive t · b.answer) := by
  simp only [offer?, offering]
  rcases b.calls.get? t with _ | c
  · rfl
  · cases c <;> rfl

/-- When nothing else happens, a run of offers is a call that is given the answers of the queue. -/
theorem hear?_of_run? {n : Nat} (h : b.run? (List.replicate n (.offer t)) = some (b', es))
    (hc : pending b'.calls t = []) :
    b.hear? t ((b.tries (List.replicate n (.offer t))).map (·.answer)) =
      some (b', es, (b.tries (List.replicate n (.offer t))).map (·.event)) := by
  induction n generalizing b es with
  | zero =>
    cases h
    simp [hear?, tries, offering_eq_none_iff.2 hc]
  | succ n ih =>
    obtain ⟨b₁, es₁, es₂, hstep, hr, rfl⟩ := run?_cons_eq_some h
    have hoff : b.offer? t = some (b₁, es₁) := hstep
    rw [offer?_eq, Option.map_eq_some_iff] at hoff
    obtain ⟨o, ho, hrec⟩ := hoff
    simp only [List.replicate_succ, tries, hstep, triesOf, pending_eq_offering, ho]
    simp [hear?, ho, hrec, ih hr]

/-- A run of nothing but one call, from its start on. -/
def callAlone (t : Thread) (e : Event) (n : Nat) : List (Label κ) :=
  .publish t e :: List.replicate n (.offer t)

theorem call?_of_run? {n : Nat} (h : b.run? (callAlone t e n) = some (b', es))
    (hc : pending b'.calls t = []) :
    b.call? t e ((b.tries (callAlone t e n)).map (·.answer)) =
      some (b', es, (b.tries (callAlone t e n)).map (·.event)) := by
  obtain ⟨b₁, es₁, es₂, hstep, hr, rfl⟩ := run?_cons_eq_some h
  have hp : b.publish? t e = some (b₁, es₁) := hstep
  simp [callAlone, tries, hstep, triesOf, call?, hp, hear?_of_run? hr hc]

theorem triesOf_offer (hc : b.calls.get? t = some (.publishing o)) :
    b.triesOf (.offer t) = [⟨t, o.event, b.answer⟩] := by
  rw [triesOf, pending_of_get? hc]
  rfl

theorem deed_of_moves (h : Moves b l b' es) : Deed b b' es (b.triesOf l) := by
  cases h with
  | publish hm => exact .call (offering_of_mayCall hm) fun u => offering_insert
  | accept hc ha hq =>
    rw [triesOf_offer hc, answer_eq_accepted_iff.2 ⟨ha, hq⟩]
    exact .settle true (offering_of_get? hc) fun u => offering_erase
  | stall hc ha hq =>
    rw [triesOf_offer hc, answer_eq_timedOut_iff.2 ⟨ha, hq⟩]
    exact .wait (offering_of_get? hc) fun u => offering_insert
  | refuse hc ha =>
    rw [triesOf_offer hc, answer_eq_disconnected_iff.2 ha]
    exact .settle false (offering_of_get? hc) fun u => offering_erase
  | close hm =>
    refine .rest (by simp [Entry.publisher?]) fun u => ?_
    dsimp only
    split
    · rfl
    · exact offering_insert_of_none (offering_of_mayCall hm) rfl
  | claim hc =>
    refine .rest (by simp) fun u => offering_insert_of_none (offering_of_get? hc) ?_
    split <;> rfl
  | finish hc _ =>
    refine .rest (by simp [Entry.publisher?]) fun u => ?_
    rw [offering_erase]
    split
    · rename_i hu
      rw [hu, offering_of_get? hc]
      split <;> rfl
    · rfl
  | _ => exact .rest (by simp [Entry.publisher?]) fun _ => rfl

/-! ## What is kept -/

/-- The report `es` and the offers `ts` of a thread are those of its publish calls `hs` that have
    returned, and of the one under way, if it has one, which offers `o` and has found the queue full
    `n` times. -/
structure Page (t : Thread) (o : Option Offer) (n : Nat) (es : List (Entry κ)) (ts : List Try)
    (hs : List Handover) : Prop where
  report_eq : es = hs.flatMap Handover.report ++ o.toList.flatMap fun x => opening t x.event n
  tries_eq : ts = hs.flatMap Handover.tries ++ o.toList.flatMap fun x => waiting t x.event n
  hasWaited_iff : ∀ x, o = some x → (x.hasWaited = true ↔ n ≠ 0)

namespace Page

variable {n : Nat}

theorem call (h : Page t none n es ts hs) (e : Event) :
    Page t (some ⟨e, false⟩) 0 (es ++ [.offered t e]) ts hs where
  report_eq := by simp [h.report_eq, opening]
  tries_eq := by simp [h.tries_eq, waiting]
  hasWaited_iff x hx := by cases hx; simp

theorem wait (h : Page t (some o) n es ts hs) :
    Page t (some { o with hasWaited := true }) (n + 1)
      (es ++ if o.hasWaited then [] else [.stalled t o.event])
      (ts ++ [⟨t, o.event, .timedOut⟩]) hs where
  report_eq := by
    have hw := h.hasWaited_iff o rfl
    by_cases hn : n = 0 <;> simp [h.report_eq, opening, hw, hn]
  tries_eq := by simp [h.tries_eq, waiting, List.replicate_succ']
  hasWaited_iff x hx := by cases hx; simp

theorem settle (h : Page t (some o) n es ts hs) (isAccepted : Bool) :
    Page t none 0 (es ++ [if isAccepted then .accepted t o.event else .refused t o.event])
      (ts ++ [⟨t, o.event, if isAccepted then .accepted else .disconnected⟩])
      (hs ++ [⟨t, o.event, n, isAccepted⟩]) where
  report_eq := by simp [h.report_eq, Handover.report, Handover.ending]
  tries_eq := by simp [h.tries_eq, Handover.tries, Handover.answers, Handover.answer, waiting]
  hasWaited_iff x hx := nomatch hx

end Page

/-- `hs` are the publish calls that have returned in a run with the report `es` and the offers `ts`,
    in the order in which they did. -/
structure Ledger (b : Bus κ) (es : List (Entry κ)) (ts : List Try) (hs : List Handover) : Prop where
  accepts_eq : accepts es = (hs.filter (·.isAccepted)).map fun h => (h.thread, h.event)
  refusals_eq : refusals es = (hs.filter (!·.isAccepted)).map fun h => (h.thread, h.event)
  page : ∀ t, ∃ n, Page t (offering b.calls t) n (reportOf t es) (ts.filter (·.thread = t))
    (hs.filter (·.thread = t))

theorem ledger_fresh (h : ∀ t, pending b.calls t = []) : Ledger b [] [] [] where
  accepts_eq := rfl
  refusals_eq := rfl
  page t := by
    rw [offering_eq_none_iff.2 (h t)]
    exact ⟨0, rfl, rfl, nofun⟩

theorem Ledger.extend {ks : List Handover} (hl : Ledger b es ts hs)
    (ha : accepts fs = (ks.filter (·.isAccepted)).map fun h => (h.thread, h.event))
    (hr : refusals fs = (ks.filter (!·.isAccepted)).map fun h => (h.thread, h.event))
    (hf : ∀ x ∈ fs, x.publisher? = some t) (hu : ∀ x ∈ us, x.thread = t)
    (hk : ∀ h ∈ ks, h.thread = t) (ho : ∀ u, u ≠ t → offering b'.calls u = offering b.calls u)
    (hp : ∃ n, Page t (offering b'.calls t) n (reportOf t es ++ fs)
      (ts.filter (·.thread = t) ++ us) (hs.filter (·.thread = t) ++ ks)) :
    Ledger b' (es ++ fs) (ts ++ us) (hs ++ ks) where
  accepts_eq := by rw [accepts_append, List.filter_append, List.map_append, hl.accepts_eq, ha]
  refusals_eq := by rw [refusals_append, List.filter_append, List.map_append, hl.refusals_eq, hr]
  page v := by
    rw [reportOf_append, List.filter_append, List.filter_append]
    by_cases hv : v = t
    · subst hv
      have hf' : reportOf v fs = fs := List.filter_eq_self.2 fun x hx => by simp [hf x hx]
      have hu' : us.filter (·.thread = v) = us := List.filter_eq_self.2 fun x hx => by simp [hu x hx]
      have hk' : ks.filter (·.thread = v) = ks := List.filter_eq_self.2 fun x hx => by simp [hk x hx]
      rw [hf', hu', hk']
      exact hp
    · have hf' : reportOf v fs = [] :=
        List.filter_eq_nil_iff.2 fun x hx => by simp [hf x hx, Ne.symm hv]
      have hu' : us.filter (·.thread = v) = [] :=
        List.filter_eq_nil_iff.2 fun x hx => by simp [hu x hx, Ne.symm hv]
      have hk' : ks.filter (·.thread = v) = [] :=
        List.filter_eq_nil_iff.2 fun x hx => by simp [hk x hx, Ne.symm hv]
      rw [hf', hu', hk', List.append_nil, List.append_nil, List.append_nil, ho v hv]
      exact hl.page v

theorem returns_eq_nil (h : ∀ x ∈ es, x.publisher? = none) :
    accepts es = [] ∧ refusals es = [] := by
  constructor
  · refine List.filterMap_eq_nil_iff.2 fun x hx => ?_
    cases x with
    | accepted => cases h _ hx
    | _ => rfl
  · refine List.filterMap_eq_nil_iff.2 fun x hx => ?_
    cases x with
    | refused => cases h _ hx
    | _ => rfl

theorem ledger_of_deed (hl : Ledger b es ts hs) (hd : Deed b b' fs us) :
    ∃ hs', Ledger b' (es ++ fs) (ts ++ us) hs' := by
  cases hd with
  | @call t e hb hb' =>
    obtain ⟨n, hp⟩ := hl.page t
    rw [hb] at hp
    refine ⟨hs ++ [], hl.extend (t := t) rfl rfl (by simp [Entry.publisher?]) nofun nofun
      (fun u hu => by rw [hb', if_neg hu]) ⟨0, ?_⟩⟩
    rw [hb', if_pos rfl, List.append_nil, List.append_nil]
    exact hp.call e
  | @wait t o hb hb' =>
    obtain ⟨n, hp⟩ := hl.page t
    rw [hb] at hp
    refine ⟨hs ++ [], hl.extend (t := t) ?_ ?_ ?_ (by simp) nofun
      (fun u hu => by rw [hb', if_neg hu]) ⟨n + 1, ?_⟩⟩
    · split <;> rfl
    · split <;> rfl
    · split <;> simp [Entry.publisher?]
    · rw [hb', if_pos rfl, List.append_nil]
      exact hp.wait
  | @settle t o isAccepted hb hb' =>
    -- the page knows how often the call has found the queue full
    obtain ⟨n, hp⟩ := hl.page t
    rw [hb] at hp
    refine ⟨hs ++ [⟨t, o.event, n, isAccepted⟩], hl.extend (t := t) ?_ ?_ ?_ (by simp) (by simp)
      (fun u hu => by rw [hb', if_neg hu]) ⟨0, ?_⟩⟩
    · cases isAccepted <;> rfl
    · cases isAccepted <;> rfl
    · cases isAccepted <;> simp [Entry.publisher?]
    · rw [hb', if_pos rfl]
      exact hp.settle isAccepted
  | rest he hb' =>
    obtain ⟨ha, hr⟩ := returns_eq_nil he
    refine ⟨hs, by simpa [ha] using hl.accepts_eq, by simpa [hr] using hl.refusals_eq, fun u => ?_⟩
    have hf : reportOf u fs = [] := List.filter_eq_nil_iff.2 fun x hx => by simp [he x hx]
    rw [reportOf_append, hf, List.append_nil, List.append_nil, hb']
    exact hl.page u

theorem ledger_of_run (hl : Ledger b es ts hs) (h : b.run? ls = some (b', fs)) :
    ∃ hs', Ledger b' (es ++ fs) (ts ++ b.tries ls) hs' := by
  induction ls generalizing b es ts hs fs with
  | nil =>
    cases h
    exact ⟨hs, by simpa [tries] using hl⟩
  | cons l ls ih =>
    obtain ⟨b₁, es₁, es₂, hstep, hr, rfl⟩ := run?_cons_eq_some h
    obtain ⟨hs₁, hl₁⟩ := ledger_of_deed hl (deed_of_moves (moves_of_step? hstep))
    simp only [tries, hstep]
    rw [← List.append_assoc, ← List.append_assoc]
    exact ih hl₁ hr

/-! ## Which calls were made -/

theorem filter_offers : (offers es).filter (·.1 = t) = offers (reportOf t es) := by
  rw [offers, offers, reportOf, List.filter_filterMap, List.filterMap_filter]
  congr 1
  funext x
  cases x <;> simp [Entry.publisher?, Option.filter_some]

theorem offers_flatMap_report :
    offers (hs.flatMap Handover.report : List (Entry κ)) = hs.map fun h => (h.thread, h.event) := by
  induction hs with
  | nil => rfl
  | cons h hs ih =>
    have hr : offers (h.report : List (Entry κ)) = [(h.thread, h.event)] := by
      obtain ⟨t, e, _ | n, _ | _⟩ := h <;> rfl
    rw [List.flatMap_cons, offers_append, hr, ih]
    rfl

theorem perm_of_filter_eq (h : ∀ t, k.filter (·.1 = t) = m.filter (·.1 = t)) : k.Perm m := by
  rw [List.perm_iff_count]
  intro p
  rw [← List.count_filter (p := (·.1 = p.1)) (by simp), h, List.count_filter (by simp)]

/-- When none is under way, the calls that were made are those that have returned. -/
theorem Ledger.offers_perm (hl : Ledger b es ts hs) (hc : ∀ t, pending b.calls t = []) :
    (offers es).Perm (hs.map fun h => (h.thread, h.event)) := by
  refine perm_of_filter_eq fun t => ?_
  obtain ⟨n, hp⟩ := hl.page t
  rw [filter_offers, hp.report_eq, offering_eq_none_iff.2 (hc t), Option.toList_none,
    List.flatMap_nil, List.append_nil, offers_flatMap_report, List.filter_map]
  rfl

/-- **Every publish call hands its event over once, or gives it up.**

    Whatever answers it gets, any number of times that the queue is full and then that the queue
    takes the event or that nobody does, a publish call returns with the last of them.  Each of its
    offers shows the event that it was given.  Either the event came into the queue, once, and was
    counted as published, or nothing came into it, and the event was counted as dropped, of which
    the log was warned once.  That the queue was full the log was warned of once if it was, and else
    never.  Nothing else has changed.  Where nothing happens but the call, the queue answers, and
    what the bus does is the call with these answers.

    However the calls of all threads are mixed with each other and with all else that happens, they
    come to just that.  What is reported of a thread, and its offers with their answers, are those of
    its calls that have returned, one after the other, and of the one under way.  What came into the
    queue are the events of the calls that it took, in order.  Each call that has returned was counted
    once, on one side; and when none is under way, they are all calls that were made. -/
theorem handed_over_once :
    (∀ (b : Bus κ) (h : Handover) (nameOf : κ → String), b.mayCall h.thread = true →
      b.call? h.thread h.event h.answers =
        some (h.settle b, h.report, List.replicate (h.waits + 1) h.event) ∧
      h.report.filterMap (Entry.record? b nameOf) = h.warnings b) ∧
    (∀ (b b' : Bus κ) (t : Thread) (e : Event) (n : Nat) (es : List (Entry κ)),
      b.run? (callAlone t e n) = some (b', es) → pending b'.calls t = [] →
      b.call? t e ((b.tries (callAlone t e n)).map (·.answer)) =
        some (b', es, (b.tries (callAlone t e n)).map (·.event))) ∧
    ∀ (b₀ b : Bus κ) (ls : List (Label κ)) (es : List (Entry κ)),
      (∀ t, pending b₀.calls t = []) → b₀.run? ls = some (b, es) →
      ∃ hs : List Handover,
        (∀ t, ∃ n,
          reportOf t es = (hs.filter (·.thread = t)).flatMap Handover.report ++
            (pending b.calls t).flatMap (opening t · n) ∧
          (b₀.tries ls).filter (·.thread = t) = (hs.filter (·.thread = t)).flatMap Handover.tries ++
            (pending b.calls t).flatMap (waiting t · n)) ∧
        b₀.phase.inFlight ++ b₀.queue ++ (hs.filter (·.isAccepted)).map (·.event) =
          dispatched es ++ (b.phase.inFlight ++ b.queue) ∧
        b.stats.published = b₀.stats.published + hs.countP (·.isAccepted) ∧
        b.stats.dropped = b₀.stats.dropped + hs.countP (!·.isAccepted) ∧
        b.stats.published + b.stats.dropped =
          b₀.stats.published + b₀.stats.dropped + hs.length ∧
        ((∀ t, pending b.calls t = []) →
          (offers es).Perm (hs.map fun h => (h.thread, h.event))) := by
  refine ⟨fun b h nameOf hm => ⟨call?_answers hm, filterMap_report nameOf⟩,
    fun b b' t e n es => call?_of_run?, ?_⟩
  intro b₀ b ls es h₀ h
  obtain ⟨hs, hl⟩ := ledger_of_run (ledger_fresh h₀) h
  rw [List.nil_append, List.nil_append] at hl
  obtain ⟨hp, hd, -⟩ := stats_between h
  rw [hl.accepts_eq, List.length_map, ← List.countP_eq_length_filter] at hp
  rw [hl.refusals_eq, List.length_map, ← List.countP_eq_length_filter] at hd
  have hn : hs.length = hs.countP (·.isAccepted) + hs.countP (!·.isAccepted) := by
    simpa using List.length_eq_countP_add_countP Handover.isAccepted
  refine ⟨hs, fun t => ?_, ?_, hp, hd, by omega, hl.offers_perm⟩
  · obtain ⟨n, hpage⟩ := hl.page t
    refine ⟨n, ?_, ?_⟩
    · rw [hpage.report_eq, pending_eq_offering, List.flatMap_map]
    · rw [hpage.tries_eq, pending_eq_offering, List.flatMap_map]
  · rw [← fifo_between h, accepted, hl.accepts_eq, List.map_map]
    rfl

/-- A run in which one call waits twice for room, and another one comes too late. -/
def patientRun : List (Label Unit) :=
  [.publish (.caller 0) blankEvent, .offer (.caller 0), .publish (.caller 1) blankEvent,
    .offer (.caller 1), .offer (.caller 1), .takeEvent, .offer (.caller 1), .proceed,
    .close (.caller 0), .takeStop, .proceed, .proceed, .proceed, .proceed, .proceed, .proceed,
    .proceed, .claim (.caller 0), .finish (.caller 0), .publish (.caller 1) blankEvent,
    .offer (.caller 1)]

theorem handed_over_once_patient :
    ∃ b₀ b es, start 1 = .ok b₀ ∧ b₀.run? patientRun = some (b, es) ∧
      (∀ t, pending b₀.calls t = []) ∧ (∀ t, pending b.calls t = []) ∧
      b.stats.published = 2 ∧ b.stats.dropped = 1 ∧
      (∃ hs : List Handover, hs.length = 3 ∧ hs.countP (!·.isAccepted) = 1 ∧
        (b₀.tries patientRun).filter (·.thread = .caller 1) =
          (hs.filter (·.thread = .caller 1)).flatMap Handover.tries) ∧
      b.mayCall (.caller 2) = true ∧
      b.call? (.caller 2) blankEvent [.timedOut, .timedOut, .disconnected] =
        some ({ b with stats := { b.stats with dropped := 2 } },
          [.offered (.caller 2) blankEvent, .stalled (.caller 2) blankEvent,
            .refused (.caller 2) blankEvent],
          [blankEvent, blankEvent, blankEvent]) ∧
      b.call? (.caller 2) blankEvent [.disconnected] =
        some ({ b with stats := { b.stats with dropped := 2 } },
          [.offered (.caller 2) blankEvent, .refused (.caller 2) blankEvent], [blankEvent]) := by
  obtain ⟨hone, halone, hall⟩ := @handed_over_once Unit
  obtain ⟨hs, hpage, -, -, hdrop, -, hperm⟩ :=
    hall { capacity := 1, capacity_pos := Nat.one_pos } _ patientRun _ (fun _ => rfl) rfl
  obtain ⟨n, -, htries⟩ := hpage (.caller 1)
  have hlen : hs.length = 3 := List.length_map _ ▸ (hperm fun _ => rfl).length_eq.symm
  refine ⟨_, _, _, rfl, rfl, fun _ => rfl, fun _ => rfl, rfl, rfl,
    ⟨hs, hlen, ?_, ?_⟩, rfl, ?_, ?_⟩
  · exact (Nat.zero_add _).symm.trans hdrop.symm
  · exact htries.trans (List.append_nil _)
  · exact (hone _ ⟨.caller 2, blankEvent, 2, false⟩ (fun _ => "") rfl).1
  · exact halone _ _ (.caller 2) blankEvent 1 _ rfl rfl

end PlatformCore.Bus
