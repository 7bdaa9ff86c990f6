/-
  What a sweep of the ban list would change.

  A ban that has lapsed is kept until its client is looked at.  Nobody can tell: to sweep the list,
  to look at a client, to read a record, to log in with the right password, to log out or to ask who
  one is, at whatever point of a run and however often, changes nothing in what the other dealings
  come to.  In particular no failure is forgotten because its client logged in meanwhile.

  * `BanList.sweep` removes all bans that have lapsed, and a `Chore` is a dealing or a sweep;
  * `Dealing.isNeutral` tells whether a dealing adds no failure, and `countAlike_deal_of_isNeutral`
    says that the same records count after such a dealing as before;
  * `unobservable_of_isNeutral`: chores that may be left out.
-/
import PlatformCore.Proofs.Session.Omission
import PlatformCore.Proofs.Session.Window

namespace PlatformCore.Session

/-! ## Sweeps -/

/-- The list without the records whose ban has lapsed. -/
def BanList.sweep (b : BanList) (s : SessionSettings) (now : Int) : BanList :=
  ⟨b.records.filter fun x => x.bannedAt.isNone || x.BanActive now s.banLength⟩

/-- A dealing, or a sweep of the ban list. -/
inductive Chore where
  | dealing (d : Dealing)
  | sweep (now : Int)

def Chore.now : Chore → Int
  | dealing d => d.now
  | sweep now => now

def Gateway.attend (g : Gateway) (b : BanList) : Chore → BanList × Option Upshot
  | .dealing d => ((g.deal b d).1, some (g.deal b d).2)
  | .sweep now => (b.sweep g.settings now, none)

/-- Whether a dealing adds no failure, whatever ban list it finds. -/
def Dealing.isNeutral : Dealing → Bool
  | visit ⟨_, verify, .login m _ k⟩ => m ≠ .post || verify k.login k.password
  | inquiry _ (.recordFailure _) => false
  | _ => true

/-- Whether a chore adds no failure. -/
def Chore.isNeutral : Chore → Bool
  | dealing d => d.isNeutral
  | sweep _ => true

/-- What came of a dealing, but for the ban list that it left, and for records that are shown as
    they are kept. -/
def Upshot.told : Upshot → Option Upshot
  | finding (.record _) | finding (.count _) => none
  | u => some u.seen

/-! ## The records that count -/

variable {s : SessionSettings} {r : Option ClientRecord} {x : ClientRecord} {b b' b₁ : BanList}
  {now t : Int} {c : String}

theorem ClientRecord.BanActive.of_le (h : x.BanActive t s.banLength) (hn : now ≤ t) :
    x.BanActive now s.banLength := by
  obtain ⟨u, hu, hlt⟩ := ClientRecord.banActive_iff.1 h
  exact ClientRecord.banActive_iff.2 ⟨u, hu, by omega⟩

theorem standing_standing_of_le (hn : now ≤ t) :
    standing (standing r now s.banLength) t s.banLength = standing r t s.banLength := by
  rw [standing, standing, standing, Option.filter_filter]
  refine congrArg (Option.filter · r) (funext fun x => ?_)
  rw [Bool.and_eq_right_iff_imp]
  intro h
  rcases Bool.or_eq_true _ _ ▸ h with hb | ha
  · rw [hb, Bool.true_or]
  · rw [decide_eq_true ((of_decide_eq_true ha).of_le hn), Bool.or_true]

theorem BanList.get?_sweep : (b.sweep s now).get? c = standing (b.get? c) now s.banLength :=
  Registry.get?_filter

/-- Of every client the same record counts. -/
def CountAlike (s : SessionSettings) (now : Int) (b b' : BanList) : Prop :=
  ∀ c, standing (b.get? c) now s.banLength = standing (b'.get? c) now s.banLength

namespace CountAlike

theorem trans (h₁ : CountAlike s now b b₁) (h₂ : CountAlike s now b₁ b') : CountAlike s now b b' :=
  fun c => (h₁ c).trans (h₂ c)

theorem mono (h : CountAlike s now b b') (hn : now ≤ t) : CountAlike s t b b' := by
  intro c
  rw [← standing_standing_of_le hn, h c, standing_standing_of_le hn]

end CountAlike

theorem countAlike_sweep : CountAlike s now (b.sweep s now) b := by
  intro c
  rw [BanList.get?_sweep, standing_standing]

/-! ## Dealings -/

theorem Upshot.told_seen {u : Upshot} : u.seen.told = u.told := by
  rcases u with o | f
  · rfl
  · cases f <;> rfl

namespace Gateway

variable {g : Gateway} {d : Dealing} {a : Chore} {verify : String → String → Bool}
  {client : String} {k : Credentials}

theorem told_deal_of_shown? (h : d.shown? = some c) : (g.deal b d).2.told = none := by
  rcases d with v | ⟨now, q⟩
  · cases h
  · cases q with
    | record | failedAttempts => rfl
    | _ => cases h

theorem deal_of_countAlike (h : CountAlike g.settings d.now b b') :
    CountAlike g.settings d.now (g.deal b d).1 (g.deal b' d).1 ∧
      (g.deal b d).2.told = (g.deal b' d).2.told := by
  constructor
  · intro c
    exact get?_deal_congr
      (R := fun r r' => standing r d.now g.settings.banLength =
        standing r' d.now g.settings.banLength)
      (fun _ => rfl) (fun _ => h c) (h c)
  · rcases hs : d.shown? with _ | c
    · have hseen : (g.deal b d).2.seen = (g.deal b' d).2.seen :=
        seen_deal_congr (fun c _ => h c) (fun c hc => by rw [hs] at hc; cases hc)
      rw [← Upshot.told_seen, hseen, Upshot.told_seen]
    · rw [told_deal_of_shown? hs, told_deal_of_shown? hs]

theorem standing_bans_login_of_verify (hv : verify k.login k.password = true) :
    standing ((g.login verify now .post client k b).bans.get? client) now g.settings.banLength =
      standing (b.get? client) now g.settings.banLength := by
  by_cases hb : Bars (b.get? client) now g.settings.banLength
  · rw [login_of_bars hb]
  · rw [login_of_not_bars hb, if_pos hv, bans_accept, BanList.get?_isBanned_self,
      standing_standing]

theorem countAlike_deal_of_isNeutral (hn : d.isNeutral = true) :
    CountAlike g.settings d.now (g.deal b d).1 b := by
  intro c
  by_cases hd : d.lookedUp? = some c
  · obtain ⟨now, verify, e⟩ | ⟨now, q⟩ := d
    · cases e with
      | logout | whoAmI => cases hd
      | login m client k =>
        obtain ⟨rfl, hc⟩ := Option.ite_none_right_eq_some.1 hd
        obtain rfl : client = c := Option.some.inj hc
        have hv : verify k.login k.password = true := by simpa [Dealing.isNeutral] using hn
        exact standing_bans_login_of_verify hv
    · cases q with
      | recordFailure => cases hn
      | isBanned client =>
        obtain rfl : client = c := Option.some.inj hd
        change standing ((b.isBanned g.settings now client).2.get? client) now _ =
          standing (b.get? client) now _
        rw [BanList.get?_isBanned_self, standing_standing]
      | ensureNotBanned client =>
        obtain rfl : client = c := Option.some.inj hd
        change standing ((g.ensureNotBanned now client b).2.get? client) now _ =
          standing (b.get? client) now _
        rw [bans_ensureNotBanned, BanList.get?_isBanned_self, standing_standing]
      | _ => cases hd
  · rw [get?_deal_of_ne hd]

/-! ## Chores -/

theorem attend_of_countAlike (h : CountAlike g.settings a.now b b') :
    CountAlike g.settings a.now (g.attend b a).1 (g.attend b' a).1 ∧
      (g.attend b a).2.bind Upshot.told = (g.attend b' a).2.bind Upshot.told := by
  cases a with
  | dealing d => exact deal_of_countAlike h
  | sweep now =>
    refine ⟨fun c => ?_, rfl⟩
    exact (countAlike_sweep c).trans ((h c).trans (countAlike_sweep c).symm)

theorem countAlike_attend_of_isNeutral (hn : a.isNeutral = true) :
    CountAlike g.settings a.now (g.attend b a).1 b := by
  cases a with
  | dealing d => exact countAlike_deal_of_isNeutral hn
  | sweep now => exact countAlike_sweep

end Gateway

/-- **What adds no failure is not noticed.**  At readings of the clock that do not go back, take any
    chores, and leave out or put in any that are neutral: sweeps, looks at a client, reads of a
    record, logins with the right password or the wrong method, logouts, and so on.  What the others
    come to is the same, and at every reading from then on the same record counts of every client,
    with the same failures. -/
theorem unobservable_of_isNeutral (g : Gateway) (b : BanList) (l : List (Chore × Bool))
    (hp : l.Pairwise (·.1.now ≤ ·.1.now)) (hn : ∀ p ∈ l, p.2 = false → p.1.isNeutral = true) :
    (marked ((runAll g.attend b (l.map (·.1))).2.zip (l.map (·.2)))).map (·.2.bind Upshot.told) =
        (runAll g.attend b (marked l)).2.map (·.2.bind Upshot.told) ∧
      ∀ now, (∀ p ∈ l, p.1.now ≤ now) → ∀ c,
        standing ((runAll g.attend b (l.map (·.1))).1.get? c) now g.settings.banLength =
          standing ((runAll g.attend b (marked l)).1.get? c) now g.settings.banLength := by
  refine and_comm.1 (runAll_marked (fun a : Chore => CountAlike g.settings a.now)
    (fun b b' => ∀ now, (∀ p ∈ l, p.1.now ≤ now) → CountAlike g.settings now b b')
    (fun u : Option Upshot => u.bind Upshot.told) ?_ ?_ ?_ ?_ ?_ ?_)
  · exact hp.imp fun h b b' hb => hb.mono h
  · intro p hp b b' hb now hnow
    exact hb.mono (hnow p hp)
  · intro p _ _ b b' hb
    exact Gateway.attend_of_countAlike hb
  · intro p hp hf b b' hb
    exact (Gateway.countAlike_attend_of_isNeutral (hn p hp hf)).trans hb
  · intro p _ c
    rfl
  · intro now _ c
    rfl

/-- A client fails twice, and its ban lapses.  Marked is what adds a failure, or tells of one. -/
def restlessDay : List (Chore × Bool) :=
  [(.dealing (.visit ⟨0, fun _ _ => false, .login .post "203.0.113.9" ⟨"ann", ""⟩⟩), true),
    (.dealing (.visit ⟨0, fun _ _ => true, .login .post "203.0.113.9" ⟨"ann", "secret"⟩⟩), false),
    (.dealing (.inquiry 5 (.recordFailure "203.0.113.9")), true),
    (.dealing (.visit ⟨7, fun _ _ => true, .logout .post⟩), false),
    (.dealing (.inquiry 900 (.isBanned "203.0.113.9")), true), (.sweep 1005, false),
    (.dealing (.inquiry 1006 (.ensureNotBanned "203.0.113.9")), false),
    (.dealing (.inquiry 1006 (.recordFailure "203.0.113.9")), true)]

theorem unobservable_of_isNeutral_restlessDay :
    (marked ((runAll briskGateway.attend {} (restlessDay.map (·.1))).2.zip
        (restlessDay.map (·.2)))).map (·.2.bind Upshot.told) =
      (runAll briskGateway.attend {} (marked restlessDay)).2.map (·.2.bind Upshot.told) ∧
      standing ((runAll briskGateway.attend {} (restlessDay.map (·.1))).1.get? "203.0.113.9")
        1007 1000 = some ⟨1, none⟩ := by
  obtain ⟨hm, he⟩ := unobservable_of_isNeutral briskGateway {} restlessDay (by decide) (by decide)
  exact ⟨hm, (he 1007 (by decide) "203.0.113.9").trans rfl⟩

end PlatformCore.Session
