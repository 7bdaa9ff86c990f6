/-
  What the watchers come to know.

  Four registrations decide who is told of an event: the watcher of starts and shutdowns of those
  two kinds, the watcher of failed logins and bans of the other two, and nobody of any other kind.

  * `matching_watches` says so of the table;
  * `Company.heedAll` is what the consumers know after they were told of events, and `heedAll_owed`
    what the watchers know after all that concerns them in a list of events;
  * `foldl_heed`: what a list of events comes to in the audit;
  * `calm_react`: a watcher that is told of its own kinds only fails never, and publishes nothing.
-/
import Mathlib.Data.List.DropRight
import PlatformCore.Platform
import PlatformCore.Proofs.Routing.Matching

namespace PlatformCore

open Stage

/-! ## Who is told -/

def watchTable : Table Consumer := Table.empty.insertAll Platform.watches

theorem under_watchTable {f : Filter} :
    watchTable.under f = (Platform.watches.filter (·.1 = f)).map Prod.snd := by
  rw [watchTable, Table.under_insertAll, Table.under_empty, List.nil_append]

theorem matching_watchTable (e : Event) :
    watchTable.matching e = watchTable.under { kind := some e.kind } := by
  have hall : watchTable.under {} = [] := rfl
  have ho : ∀ o k, watchTable.under ⟨some o, k⟩ = [] := by
    intro o k
    rw [under_watchTable]
    simp [Platform.watches]
  rw [Table.matching, Filter.lookupOrder]
  cases e.originator with
  | none => simp [hall]
  | some o => simp [ho, hall]

/-- The consumer that an event concerns, if any. -/
def Event.watcher? (e : Event) : Option Consumer :=
  if e.kind = .platformStarted ∨ e.kind = .platformShutdown then some .lifecycle
  else if e.kind = .loginFailed ∨ e.kind = .clientBanned then some .audit
  else none

theorem matching_watches (e : Event) : watchTable.matching e = e.watcher?.toList := by
  rw [matching_watchTable, under_watchTable, Event.watcher?]
  generalize e.kind = k
  by_cases h₁ : k = .platformStarted
  · subst h₁
    rfl
  by_cases h₂ : k = .platformShutdown
  · subst h₂
    rfl
  by_cases h₃ : k = .loginFailed
  · subst h₃
    rfl
  by_cases h₄ : k = .clientBanned
  · subst h₄
    rfl
  · simp [Platform.watches, h₁, h₂, h₃, h₄, Ne.symm h₁, Ne.symm h₂, Ne.symm h₃, Ne.symm h₄]

/-! ## What they make of it -/

namespace Stage

/-- What consumers know after they were told of events. -/
def Company.heedAll (co : Company) (l : List (Consumer × Event)) : Company :=
  l.foldl (fun co p => (co.react p.1 p.2).1) co

theorem Company.heedAll_append {co : Company} {k l : List (Consumer × Event)} :
    co.heedAll (k ++ l) = (co.heedAll k).heedAll l := List.foldl_append

/-- A consumer only tells the log, at most once, and ends well. -/
structure Reaction.Calm (r : Reaction Consumer) : Prop where
  ending_eq : r.ending = .ok
  acts_eq : ∀ a ∈ r.acts, ∃ n, a = .note n
  length_le : r.acts.length ≤ 1

theorem Reaction.Calm.idle : Reaction.Calm {} := ⟨rfl, nofun, Nat.zero_le 1⟩

end Stage

def Lifecycle.after (l : Lifecycle) (e : Event) : Lifecycle :=
  ⟨l.started + if e.kind = .platformStarted then 1 else 0,
    l.shutdown + if e.kind = .platformShutdown then 1 else 0⟩

variable {l : Lifecycle} {a : SecurityAudit} {e : Event} {co : Company} {c : Consumer}

theorem watcher?_cases (e : Event) :
    (e.watcher? = some .lifecycle ∧ (e.kind = .platformStarted ∨ e.kind = .platformShutdown)) ∨
    (e.watcher? = some .audit ∧ (e.kind = .loginFailed ∨ e.kind = .clientBanned)) ∨
    (e.watcher? = none ∧ e.kind ≠ .platformStarted ∧ e.kind ≠ .platformShutdown ∧
      e.kind ≠ .loginFailed ∧ e.kind ≠ .clientBanned) := by
  rw [Event.watcher?]
  grind

theorem Lifecycle.heed?_eq_ok (h : e.kind = .platformStarted ∨ e.kind = .platformShutdown) :
    ∃ r, l.heed? e = .ok (l.after e, r) := by
  rcases h with h | h
  · exact ⟨record e "Platform started", by simp +decide [heed?, after, h]⟩
  · exact ⟨record e "Platform shutting down", by simp +decide [heed?, after, h]⟩

theorem Lifecycle.after_eq_self (h₁ : e.kind ≠ .platformStarted)
    (h₂ : e.kind ≠ .platformShutdown) : l.after e = l := by
  rw [after, if_neg h₁, if_neg h₂]
  rfl

theorem SecurityAudit.heed_eq_self (h₁ : e.kind ≠ .loginFailed) (h₂ : e.kind ≠ .clientBanned) :
    (a.heed e).1 = a := by
  rw [heed, if_neg h₁, if_neg h₂]

theorem calm_react (h : e.watcher? = some c) : (co.react c e).2.Calm := by
  rcases watcher?_cases e with ⟨hw, hk⟩ | ⟨hw, -⟩ | ⟨hw, -⟩
  · cases hw.symm.trans h
    obtain ⟨r, hr⟩ := Lifecycle.heed?_eq_ok (l := co.lifecycle) hk
    simp only [Company.react, hr]
    exact ⟨rfl, fun x hx => ⟨r, List.mem_singleton.1 hx⟩, Nat.le_refl 1⟩
  · cases hw.symm.trans h
    refine ⟨rfl, fun x hx => ?_, ?_⟩
    · obtain ⟨r, -, rfl⟩ := List.mem_map.1 hx
      exact ⟨r, rfl⟩
    · simp only [Company.react, List.length_map, Option.length_toList_le]
  · cases hw.symm.trans h

theorem heedAll_watcher :
    (co.heedAll (e.watcher?.toList.map (·, e))).audit = (co.audit.heed e).1 ∧
      (co.heedAll (e.watcher?.toList.map (·, e))).lifecycle = co.lifecycle.after e := by
  rcases watcher?_cases e with ⟨hw, hk⟩ | ⟨hw, hk⟩ | ⟨hw, h₁, h₂, h₃, h₄⟩ <;> rw [hw]
  · obtain ⟨r, hr⟩ := Lifecycle.heed?_eq_ok (l := co.lifecycle) hk
    have ha : (co.audit.heed e).1 = co.audit := by
      rcases hk with hk | hk <;> refine SecurityAudit.heed_eq_self ?_ ?_ <;> rw [hk] <;> decide
    simp [Company.heedAll, Company.react, hr, ha]
  · have hl : co.lifecycle.after e = co.lifecycle := by
      rcases hk with hk | hk <;> refine Lifecycle.after_eq_self ?_ ?_ <;> rw [hk] <;> decide
    simp [Company.heedAll, Company.react, hl]
  · exact ⟨(SecurityAudit.heed_eq_self h₃ h₄).symm, (Lifecycle.after_eq_self h₁ h₂).symm⟩

theorem heedAll_owed {l : List Event} {co : Company} :
    (co.heedAll (l.flatMap fun e => (watchTable.matching e).map (·, e))).audit =
        l.foldl (fun a e => (a.heed e).1) co.audit ∧
      (co.heedAll (l.flatMap fun e => (watchTable.matching e).map (·, e))).lifecycle =
        l.foldl Lifecycle.after co.lifecycle := by
  induction l generalizing co with
  | nil => exact ⟨rfl, rfl⟩
  | cons e l ih =>
    rw [List.flatMap_cons, Company.heedAll_append, matching_watches]
    obtain ⟨ha, hl⟩ := @heedAll_watcher e co
    obtain ⟨iha, ihl⟩ := @ih (co.heedAll (e.watcher?.toList.map (·, e)))
    rw [iha, ihl, ha, hl]
    exact ⟨rfl, rfl⟩

/-! ## Totals -/

theorem foldl_after {es : List Event} :
    es.foldl Lifecycle.after l =
      ⟨l.started + es.countP (·.kind = .platformStarted),
        l.shutdown + es.countP (·.kind = .platformShutdown)⟩ := by
  induction es generalizing l with
  | nil => rfl
  | cons e es ih =>
    rw [List.foldl_cons, ih, List.countP_cons, List.countP_cons, Lifecycle.after]
    simp only [decide_eq_true_eq, Nat.add_assoc, Nat.add_comm]

/-- Whether an event tells of a failed login or a ban. -/
def Event.isSecurity (e : Event) : Bool := e.kind = .loginFailed ∨ e.kind = .clientBanned

theorem remember_rtake {k : List String} {d : String} :
    SecurityAudit.remember (k.rtake SecurityAudit.recentLimit) d =
      (k ++ [d]).rtake SecurityAudit.recentLimit := by
  simp only [SecurityAudit.remember, List.rtake, List.length_drop, List.length_append,
    List.length_singleton]
  have hpos : 0 < SecurityAudit.recentLimit := by decide
  rcases Nat.lt_or_ge k.length SecurityAudit.recentLimit with h | h
  · rw [if_neg (by omega), Nat.sub_eq_zero_of_le (Nat.le_of_lt h), Nat.sub_eq_zero_of_le h]
    rfl
  · rw [if_pos (by omega), List.drop_drop, List.drop_append_of_le_length (by omega)]
    congr 2
    omega

/-- **What a list of events comes to in the audit**: how many tell of a failed login and how many of
    a ban, and what the last of both say. -/
theorem foldl_heed {es : List Event} {n m : Nat} {k : List String} :
    es.foldl (fun (a : SecurityAudit) e => (a.heed e).1)
        ⟨n, m, k.rtake SecurityAudit.recentLimit⟩ =
      ⟨n + es.countP (·.kind = .loginFailed), m + es.countP (·.kind = .clientBanned),
        (k ++ (es.filter (·.isSecurity)).map (·.description)).rtake SecurityAudit.recentLimit⟩ := by
  induction es generalizing n m k with
  | nil => simp
  | cons e es ih =>
    rw [List.foldl_cons, List.countP_cons, List.countP_cons]
    by_cases h₁ : e.kind = .loginFailed
    · have hs : e.isSecurity = true := by simp [Event.isSecurity, h₁]
      rw [SecurityAudit.heed, if_pos h₁, remember_rtake, ih, List.filter_cons_of_pos hs]
      simp +decide [h₁, Nat.add_assoc, Nat.add_comm]
    by_cases h₂ : e.kind = .clientBanned
    · have hs : e.isSecurity = true := by simp [Event.isSecurity, h₂]
      rw [SecurityAudit.heed, if_neg h₁, if_pos h₂, remember_rtake, ih, List.filter_cons_of_pos hs]
      simp +decide [h₂, Nat.add_assoc, Nat.add_comm]
    · have hs : ¬ e.isSecurity = true := by simp [Event.isSecurity, h₁, h₂]
      rw [SecurityAudit.heed_eq_self h₁ h₂, ih, List.filter_cons_of_neg hs]
      simp [h₁, h₂]

end PlatformCore
