/-
  The course of dealings with a gateway.

  Dealings are of many kinds, but few things happen in them: the ban list is changed by its own two
  operations only, and everything else that comes of a dealing is worked out from the ban list that
  it found.

  * `Dealing.lookedUp?` is the client that a dealing looks up on the ban list;
  * `bans_deal`: what the operations of the ban list keep, every dealing keeps; `record_deal` says so
    of the record of one client, and `bans_dealAll` of every run;
  * `exists_deal_of_mem`: each entry of a history is a dealing with what came of it.
-/
import PlatformCore.Proofs.Session.Standing
import PlatformCore.Session.Dealing

namespace PlatformCore.Session

/-! ## Who is looked up -/

/-- The client that an errand has looked up on the ban list, if any. -/
def Errand.lookedUp? : Errand → Option String
  | login m client _ => if m = .post then some client else none
  | _ => none

/-- The client that an inquiry has looked up on the ban list, if any. -/
def Inquiry.lookedUp? : Inquiry → Option String
  | recordFailure client | isBanned client | ensureNotBanned client => some client
  | _ => none

/-- The client whose ban a dealing asks the clock about, if any. -/
def Dealing.lookedUp? : Dealing → Option String
  | visit v => v.errand.lookedUp?
  | inquiry _ q => q.lookedUp?

namespace Gateway

variable {g : Gateway} {b : BanList} {d : Dealing} {ds : List Dealing} {u : Upshot}
  {verify : String → String → Bool} {e : Errand} {q : Inquiry} {now : Int} {c : String}
  {P : BanList → Prop}

/-! ## The ban list -/

section
variable (hf : ∀ b c, e.lookedUp? = some c → P b → P (b.recordFailure g.settings now c).2)
  (hi : ∀ b c, e.lookedUp? = some c → P b → P (b.isBanned g.settings now c).2)
include hf hi

theorem bans_serve (h : P b) : P (g.serve b ⟨now, verify, e⟩).bans := by
  cases e with
  | logout | whoAmI => exact h
  | login m client c =>
    change P (g.login verify now m client c b).bans
    generalize ho : g.login verify now m client c b = o
    have hl : Logs g verify now m client c b o := ho ▸ logs_login
    cases hl with
    | unsuited | refused => exact h
    | accepted hm =>
      rw [bans_accept]
      exact hi _ _ (if_pos hm) h
    | rejected hm =>
      rw [bans_reject]
      exact hf _ _ (if_pos hm) (hi _ _ (if_pos hm) h)

end

section
variable (hf : ∀ b c, q.lookedUp? = some c → P b → P (b.recordFailure g.settings now c).2)
  (hi : ∀ b c, q.lookedUp? = some c → P b → P (b.isBanned g.settings now c).2)
include hf hi

theorem bans_inquire (h : P b) : P (g.inquire b now q).1 := by
  cases q with
  | recordFailure client =>
    rw [inquire, bans_recordFailure]
    exact hf _ _ rfl h
  | isBanned client => exact hi _ _ rfl h
  | ensureNotBanned client =>
    rw [inquire, bans_ensureNotBanned]
    exact hi _ _ rfl h
  | _ => exact h

end

/-- **What the operations of the ban list keep**, on the client that a dealing looks up and at its
    reading of the clock, the dealing keeps. -/
theorem bans_deal
    (hf : ∀ b c, d.lookedUp? = some c → P b → P (b.recordFailure g.settings d.now c).2)
    (hi : ∀ b c, d.lookedUp? = some c → P b → P (b.isBanned g.settings d.now c).2) (h : P b) :
    P (g.deal b d).1 := by
  cases d with
  | visit v => exact bans_serve hf hi h
  | inquiry now q => exact bans_inquire hf hi h

/-- What they keep of the record of one client, the dealing keeps, whoever it is with. -/
theorem record_deal {Q : Option ClientRecord → Prop}
    (hf : ∀ b : BanList, d.lookedUp? = some c → Q (b.get? c) →
      Q ((b.recordFailure g.settings d.now c).2.get? c))
    (hi : ∀ b : BanList, d.lookedUp? = some c → Q (b.get? c) →
      Q ((b.isBanned g.settings d.now c).2.get? c))
    (h : Q (b.get? c)) : Q ((g.deal b d).1.get? c) := by
  refine bans_deal (P := fun b => Q (b.get? c)) ?_ ?_ h
  · intro b a ha hb
    by_cases hac : c = a
    · subst hac
      exact hf b ha hb
    · rwa [BanList.get?_recordFailure_of_ne hac]
  · intro b a ha hb
    by_cases hac : c = a
    · subst hac
      exact hi b ha hb
    · rwa [BanList.get?_isBanned_of_ne hac]

theorem bans_dealAll_of_forall (hs : ∀ d ∈ ds, ∀ b, P b → P (g.deal b d).1) (h : P b) :
    P (g.dealAll b ds).1 := by
  induction ds generalizing b with
  | nil => exact h
  | cons d ds ih =>
    obtain ⟨hd, hs⟩ := List.forall_mem_cons.1 hs
    exact ih hs (hd b h)

theorem bans_dealAll (hf : ∀ b now c, P b → P (b.recordFailure g.settings now c).2)
    (hi : ∀ b now c, P b → P (b.isBanned g.settings now c).2) (h : P b) :
    P (g.dealAll b ds).1 :=
  bans_dealAll_of_forall (fun _ _ _ => bans_deal (fun b c _ => hf b _ c) fun b c _ => hi b _ c) h

/-! ## Histories -/

/-- Each entry of a history is a dealing that found some ban list, with what came of it; and the
    ban list that it found is as every dealing keeps it. -/
theorem exists_deal_of_mem_of_forall (hs : ∀ d ∈ ds, ∀ b, P b → P (g.deal b d).1) (hb : P b)
    (h : (d, u) ∈ (g.dealAll b ds).2) : d ∈ ds ∧ ∃ b', P b' ∧ u = (g.deal b' d).2 := by
  induction ds generalizing b with
  | nil => cases h
  | cons d' ds ih =>
    obtain ⟨hd, hs⟩ := List.forall_mem_cons.1 hs
    rcases List.mem_cons.1 h with he | ht
    · cases he
      exact ⟨List.mem_cons_self, b, hb, rfl⟩
    · obtain ⟨hm, hu⟩ := ih hs (hd b hb) ht
      exact ⟨List.mem_cons_of_mem _ hm, hu⟩

theorem exists_deal_of_mem (h : (d, u) ∈ (g.dealAll b ds).2) : ∃ b', u = (g.deal b' d).2 := by
  obtain ⟨-, b', -, hu⟩ :=
    exists_deal_of_mem_of_forall (P := fun _ => True) (fun _ _ _ _ => trivial) trivial h
  exact ⟨b', hu⟩

end Gateway

end PlatformCore.Session
