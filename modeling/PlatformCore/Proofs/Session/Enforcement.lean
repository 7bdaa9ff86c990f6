/-
  When an announced ban is enforced.

  A ban is announced because of a number of failures, and enforced because of the time that has
  passed since.  While the clock stands still no time has passed, so the two agree as long as a ban
  has any length at all.  Settings without a fault do not see to that.

  * `BegunAt` says that a record holds no ban but one from a given reading;
  * `bars_dealAll_of_announced?`: when an announced ban still bars its client;
  * `enforced_of_announcement`: when a login is refused because of it;
  * `not_enforced_of_zero`: an announced ban that is not enforced.
-/
import PlatformCore.Proofs.Session.Window
import PlatformCore.Settings.Validity

namespace PlatformCore.Session

variable {s : SessionSettings} {now t : Int} {c : String}

/-! ## Bans from one reading -/

theorem ClientRecord.eq_or_mem_of_mem_bannedAt_fail {x : ClientRecord} {max : Nat}
    (h : t ∈ (x.fail max now).bannedAt) : t = now ∨ t ∈ x.bannedAt := by
  simp only [fail] at h
  split at h
  · exact Or.inl (Option.some.inj h).symm
  · exact Or.inr h

/-- A record, if there is one, holds no ban but one from a given reading. -/
def BegunAt (t : Int) (r : Option ClientRecord) : Prop := ∀ x ∈ r, ∀ u ∈ x.bannedAt, u = t

theorem BegunAt.isBanned {b : BanList} (h : BegunAt t (b.get? c)) :
    BegunAt t ((b.isBanned s t c).2.get? c) := by
  intro x hx
  rw [BanList.get?_isBanned_self] at hx
  exact h x (Option.filter_eq_some_iff.1 hx).1

theorem BegunAt.recordFailure {b : BanList} (h : BegunAt t (b.get? c)) :
    BegunAt t ((b.recordFailure s t c).2.get? c) := by
  rcases ht : isTrusted s c with _ | _
  · by_cases hb : Bars (b.get? c) t s.banLength
    · rwa [BanList.recordFailure_of_bars hb]
    · intro x hx u hu
      rw [BanList.get?_recordFailure_self ht hb] at hx
      cases hx
      rcases ClientRecord.eq_or_mem_of_mem_bannedAt_fail hu with rfl | hm
      · rfl
      · -- the record that counts holds no ban, so this is not an old one
        rcases hs : standing (b.get? c) t s.banLength with _ | y
        · rw [hs] at hm
          cases hm
        · rw [hs, Option.getD_some, bannedAt_of_mem_standing hb hs] at hm
          cases hm
  · rwa [BanList.recordFailure_of_isTrusted ht]

namespace Gateway

variable {g : Gateway} {b : BanList} {d : Dealing} {ms : List Dealing}

/-- Dealings that look at a client at one reading only begin no ban of it at another. -/
theorem begunAt_deal (hd : d.lookedUp? = some c → d.now = t) (h : BegunAt t (b.get? c)) :
    BegunAt t ((g.deal b d).1.get? c) := by
  refine record_deal (Q := BegunAt t) ?_ ?_ h
  · intro b hc hb
    rw [hd hc]
    exact hb.recordFailure
  · intro b hc hb
    rw [hd hc]
    exact hb.isBanned

/-- While the clock stands still for a client whose ban was announced, the ban bars it exactly if
    bans have a length. -/
theorem bars_dealAll_of_announced? (hs : b.Sound g.settings)
    (hu : announced? d (g.deal b d).2 = some c)
    (hm : ∀ m ∈ ms, m.lookedUp? = some c → m.now = d.now) :
    Bars ((g.dealAll (g.deal b d).1 ms).1.get? c) d.now g.settings.banLength ↔
      g.settings.banLengthSecs ≠ 0 := by
  have hc := get?_deal_of_announced? hs hu
  rw [← SessionSettings.banLength_pos_iff]
  constructor
  · intro hb
    obtain ⟨x, hx, u, hu, hlt⟩ := bars_iff.1 hb
    have h₀ : BegunAt d.now ((g.deal b d).1.get? c) := by
      intro y hy v hv
      cases hc.symm.trans hy
      exact (Option.some.inj hv).symm
    have hbegun : BegunAt d.now ((g.dealAll (g.deal b d).1 ms).1.get? c) :=
      bans_dealAll_of_forall (P := fun b => BegunAt d.now (b.get? c))
        (fun m hmem b hb => begunAt_deal (hm m hmem) hb) h₀
    have := hbegun x hx u hu
    omega
  · intro hL
    refine bars_of_lt (get?_dealAll_of_window rfl (fun m hmem ha => ?_) hc) rfl (by omega)
    have := hm m hmem ha
    omega

end Gateway

/-! ## Announced and enforced -/

/-- **An announced ban is enforced if bans have a length.**  After any run a dealing is reported to
    ban a client.  Whatever dealings follow, as long as those that look at the client still read the
    time of the ban, the users are kept from a login of the client at that time exactly if the
    length of a ban is not zero, and then the login is answered like a wrong password and changes
    nothing. -/
theorem enforced_of_announcement (g : Gateway) (ds ms : List Dealing) (d : Dealing) {c : String}
    {b₁ b₂ b : BanList} {u : Upshot} {verify : String → String → Bool} {k : Credentials}
    {o : Outcome} (h₁ : (g.dealAll {} ds).1 = b₁) (h₂ : g.deal b₁ d = (b₂, u))
    (hu : announced? d u = some c) (hm : ∀ m ∈ ms, m.lookedUp? = some c → m.now = d.now)
    (h : (g.dealAll b₂ ms).1 = b) (ho : g.login verify d.now .post c k b = o) :
    (o.consulted = false ↔ g.settings.banLengthSecs ≠ 0) ∧
      (g.settings.banLengthSecs ≠ 0 →
        o.response = .unauthorized ∧ o.events = [] ∧ o.bans = b ∧ o.token = none) := by
  have hs : b₁.Sound g.settings := h₁ ▸ BanList.Sound.dealAll .empty
  obtain rfl : (g.deal b₁ d).1 = b₂ := congrArg Prod.fst h₂
  obtain rfl : (g.deal b₁ d).2 = u := congrArg Prod.snd h₂
  have hb := Gateway.bars_dealAll_of_announced? hs hu hm
  rw [h] at hb
  subst ho
  refine ⟨Gateway.consulted_login_eq_false_iff.trans hb, fun hL => ?_⟩
  rw [Gateway.login_of_bars (hb.2 hL)]
  exact ⟨rfl, rfl, rfl, rfl⟩

/-- Settings with a given length of a ban, which comes with the first failure. -/
def hastySettings (banLengthSecs : UInt64) : Settings :=
  { session := { maxLoginFailure := 1, banLengthSecs := banLengthSecs } }

theorem fault?_hastySettings {n : UInt64} : (hastySettings n).fault? = none :=
  Settings.fault?_eq_none_iff.2
    ⟨show (1 : UInt32) ≠ 0 by decide, show (3600 : UInt64) ≠ 0 by decide,
      show (1000 : UInt64) ≠ 0 by decide, isCookieName_default, nofun⟩

def hastyGateway (banLengthSecs : UInt64) : Gateway := ⟨(hastySettings banLengthSecs).session, []⟩

def wrongGuess : Dealing :=
  .visit ⟨1700000000000, fun _ p => p = "pw", .login .post "10.0.0.1" ⟨"ann", "wrong"⟩⟩

def rightGuess (g : Gateway) (b : BanList) : Outcome :=
  g.login (fun _ p => p = "pw") 1700000000000 .post "10.0.0.1" ⟨"ann", "pw"⟩ b

/-- Meanwhile another client fails, and the banned one is looked at. -/
def meanwhile : List Dealing :=
  [.inquiry 0 (.recordFailure "10.0.0.2"), .inquiry 1700000000000 (.isBanned "10.0.0.1")]

theorem enforced_of_announcement_again :
    ∃ b₂ u b, (hastyGateway 1).deal {} wrongGuess = (b₂, u) ∧
      announced? wrongGuess u = some "10.0.0.1" ∧
      ((hastyGateway 1).dealAll b₂ meanwhile).1 = b ∧
      (rightGuess (hastyGateway 1) b).response = .unauthorized ∧
      (rightGuess (hastyGateway 1) b).consulted = false := by
  obtain ⟨hc, hr⟩ := enforced_of_announcement (hastyGateway 1) [] meanwhile wrongGuess rfl rfl rfl
    (by decide) rfl (rfl : rightGuess _ _ = _)
  exact ⟨_, _, _, rfl, rfl, rfl, (hr (by decide)).1, hc.2 (by decide)⟩

/-- Settings without a fault do not see to it that an announced ban is enforced. -/
theorem not_enforced_of_zero :
    ¬ ∀ (s : Settings) (g : Gateway) (ds : List Dealing) (d : Dealing) (c : String)
        (b₁ b₂ : BanList) (u : Upshot) (verify : String → String → Bool) (k : Credentials),
      s.fault? = none → g.settings = s.session → (g.dealAll {} ds).1 = b₁ →
      g.deal b₁ d = (b₂, u) → announced? d u = some c →
      (g.login verify d.now .post c k b₂).response = .unauthorized ∧
        (g.login verify d.now .post c k b₂).consulted = false := by
  intro hall
  have hc := (hall (hastySettings 0) (hastyGateway 0) [] wrongGuess "10.0.0.1" _ _ _
    (fun _ p => p = "pw") ⟨"ann", "pw"⟩ fault?_hastySettings rfl rfl rfl rfl).2
  exact absurd (Gateway.consulted_login_eq_false_iff.1 hc) (by decide)

end PlatformCore.Session
