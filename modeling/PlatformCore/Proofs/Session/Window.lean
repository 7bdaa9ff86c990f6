/-
  How long a ban lasts.

  A ban begins with the failure that brings it about and lasts for its length, by the unbounded
  integers and whichever way the clock goes.  Nothing that is asked in the meantime, about this
  client or another, makes it longer or shorter, and the first look at the client past its end finds
  it clean.

  * `bars_iff`: whether a record bars its client, without the bounds of the clock;
  * `announced?` is the client that a dealing was reported to ban, and `get?_deal_of_announced?` the
    record that such a dealing leaves;
  * `get?_deal_of_window` and `get?_dealAll_of_window`: within the window the record stays;
  * `window_of_dealAll`: what is found within the window, and what past it.
-/
import PlatformCore.Proofs.Session.Records

namespace PlatformCore.Session

variable {s : SessionSettings} {r : Option ClientRecord} {x : ClientRecord} {now t : Int}
  {c client login : String}

/-! ## Records that bar -/

theorem ClientRecord.banActive_iff :
    x.BanActive now s.banLength ↔ ∃ t ∈ x.bannedAt, now < t + s.banLength := by
  refine exists_congr fun t => and_congr_right fun _ => ?_
  rw [subCapped_lt_iff s.banLength_nonneg s.banLength_le]
  omega

theorem bars_iff :
    Bars r now s.banLength ↔ ∃ x ∈ r, ∃ t ∈ x.bannedAt, now < t + s.banLength := by
  simp only [Bars, ClientRecord.banActive_iff]

theorem bars_of_lt (hr : r = some x) (hx : x.bannedAt = some t) (h : now < t + s.banLength) :
    Bars r now s.banLength :=
  bars_iff.2 ⟨x, hr, t, hx, h⟩

theorem not_bars_of_le (hr : r = some x) (hx : x.bannedAt = some t) (h : t + s.banLength ≤ now) :
    ¬ Bars r now s.banLength := by
  intro hb
  obtain ⟨y, hy, u, hu, hlt⟩ := bars_iff.1 hb
  cases hr.symm.trans hy
  cases hx.symm.trans hu
  omega

theorem standing_of_le (hr : r = some x) (hx : x.bannedAt = some t) (h : t + s.banLength ≤ now) :
    standing r now s.banLength = none := by
  subst hr
  refine standing_of_lapsed (by simp [hx]) fun ha => ?_
  exact not_bars_of_le rfl hx h ⟨x, rfl, ha⟩

/-! ## Announcements -/

/-- The client that a dealing was reported to ban, if any. -/
def announced? : Dealing → Upshot → Option String
  | .inquiry _ (.recordFailure client), .finding (.flag true) => some client
  | .visit ⟨_, _, .login _ client _⟩, .outcome o =>
    if clientBannedEvent client ∈ o.events then some client else none
  | _, _ => none

theorem clientBannedEvent_mem_rejectionEvents {newlyBanned : Bool} :
    clientBannedEvent client ∈ rejectionEvents client login newlyBanned ↔ newlyBanned = true := by
  have hne : clientBannedEvent client ≠ loginFailedEvent client login := by
    intro he
    have hk : EventKind.clientBanned = EventKind.loginFailed := congrArg Event.kind he
    revert hk
    decide
  cases newlyBanned <;> simp [rejectionEvents, hne]

namespace Gateway

variable {g : Gateway} {b : BanList} {d : Dealing} {ms : List Dealing}

theorem fst_recordFailure :
    (g.recordFailure now client b).1 = (b.recordFailure g.settings now client).1 := by
  rw [recordFailure]
  rcases b.recordFailure g.settings now client with ⟨_ | _, b'⟩ <;> rfl

theorem events_accept : (g.accept now client login b).events = [] := by
  rw [accept]
  split <;> rfl

theorem events_reject :
    (g.reject now client login b).events =
      rejectionEvents client login (b.recordFailure g.settings now client).1 := by
  rw [← fst_recordFailure]
  rfl

/-- A dealing that was reported to ban a client leaves it with a record at the threshold and a ban
    from that reading of the clock. -/
theorem get?_deal_of_announced? (hs : b.Sound g.settings)
    (h : announced? d (g.deal b d).2 = some c) :
    (g.deal b d).1.get? c = some ⟨g.settings.threshold, some d.now⟩ := by
  obtain ⟨now, verify, errand⟩ | ⟨now, q⟩ := d
  · cases errand with
    | logout | whoAmI => cases h
    | login m client k =>
      obtain ⟨he, hc⟩ := Option.ite_none_right_eq_some.1 h
      obtain rfl : client = c := Option.some.inj hc
      change (g.login verify now m client k b).bans.get? client = _
      change clientBannedEvent client ∈ (g.login verify now m client k b).events at he
      generalize ho : g.login verify now m client k b = o at he ⊢
      have hl : Logs g verify now m client k b o := ho ▸ logs_login
      cases hl with
      | unsuited | refused => cases he
      | accepted =>
        rw [events_accept] at he
        cases he
      | rejected =>
        rw [events_reject, clientBannedEvent_mem_rejectionEvents] at he
        rw [bans_reject]
        exact (hs.isBanned.recordFailure_fst_iff.1 he).2
  · cases q with
    | recordFailure client =>
      simp only [deal, inquire, fst_recordFailure, bans_recordFailure] at h ⊢
      rcases hf : (b.recordFailure g.settings now client).1 with _ | _
      · rw [hf] at h
        cases h
      · rw [hf] at h
        cases h
        exact (hs.recordFailure_fst_iff.1 hf).2
    | _ => cases h

/-! ## Within the window -/

/-- A dealing that does not look at the client past the end of its ban leaves its record. -/
theorem get?_deal_of_window (hx : x.bannedAt = some t)
    (hd : d.lookedUp? = some c → d.now < t + g.settings.banLength) (h : b.get? c = some x) :
    (g.deal b d).1.get? c = some x := by
  refine record_deal (Q := (· = some x)) ?_ ?_ h
  · intro b hc hb
    rw [BanList.recordFailure_of_bars (bars_of_lt hb hx (hd hc))]
    exact hb
  · intro b hc hb
    rw [BanList.isBanned_of_bars (bars_of_lt hb hx (hd hc))]
    exact hb

theorem get?_dealAll_of_window (hx : x.bannedAt = some t)
    (hm : ∀ m ∈ ms, m.lookedUp? = some c → m.now < t + g.settings.banLength)
    (h : b.get? c = some x) : (g.dealAll b ms).1.get? c = some x :=
  bans_dealAll_of_forall (P := fun b => b.get? c = some x)
    (fun m hmem _ hb => get?_deal_of_window hx (hm m hmem) hb) h

end Gateway

/-! ## The window -/

section
variable {g : Gateway} {b : BanList} {d : Dealing} {ds : List Dealing}

theorem BanList.Sound.deal (h : b.Sound g.settings) : (g.deal b d).1.Sound g.settings :=
  Gateway.bans_deal (fun _ _ _ => .recordFailure) (fun _ _ _ => .isBanned) h

theorem BanList.Sound.dealAll (h : b.Sound g.settings) : (g.dealAll b ds).1.Sound g.settings :=
  Gateway.bans_dealAll_of_forall (fun _ _ _ hb => hb.deal) h

end

/-- **A ban lasts for exactly its length.**  After any run a dealing is reported to ban a client.
    Whatever dealings follow, as long as those that look at the client read a time before that of
    the ban plus its length, over the unbounded integers, the record stays as it is, the client is
    banned at every such reading, and no failure bans it anew or changes anything.  At the first
    reading from there on it is clean: it is not banned, its record is removed, and a failure counts
    as the first. -/
theorem window_of_dealAll (g : Gateway) (ds ms : List Dealing) (d : Dealing) {c : String}
    {b₁ b₂ b : BanList} {u : Upshot} (h₁ : (g.dealAll {} ds).1 = b₁) (h₂ : g.deal b₁ d = (b₂, u))
    (hu : announced? d u = some c)
    (hm : ∀ m ∈ ms, m.lookedUp? = some c → m.now < d.now + g.settings.banLength)
    (h : (g.dealAll b₂ ms).1 = b) :
    g.settings.banLength = min (1000 * (g.settings.banLengthSecs.toNat : Int)) Clock.latest ∧
    b.get? c = some ⟨g.settings.threshold, some d.now⟩ ∧
    (∀ now, now < d.now + g.settings.banLength →
      b.isBanned g.settings now c = (true, b) ∧ b.recordFailure g.settings now c = (false, b)) ∧
    ∀ now, d.now + g.settings.banLength ≤ now →
      (b.isBanned g.settings now c).1 = false ∧ (b.isBanned g.settings now c).2.get? c = none ∧
      (b.recordFailure g.settings now c).2.get? c =
        some ⟨1, if g.settings.threshold ≤ 1 then some now else none⟩ := by
  have hs₁ : b₁.Sound g.settings := h₁ ▸ BanList.Sound.dealAll .empty
  obtain rfl : (g.deal b₁ d).1 = b₂ := congrArg Prod.fst h₂
  obtain rfl : (g.deal b₁ d).2 = u := congrArg Prod.snd h₂
  have hc : b.get? c = some ⟨g.settings.threshold, some d.now⟩ :=
    h ▸ Gateway.get?_dealAll_of_window rfl hm (Gateway.get?_deal_of_announced? hs₁ hu)
  have hs : b.Sound g.settings := h ▸ hs₁.deal.dealAll
  refine ⟨rfl, hc, ?_, ?_⟩
  · intro now hn
    have hb := bars_of_lt hc rfl hn
    exact ⟨BanList.isBanned_of_bars hb, BanList.recordFailure_of_bars hb⟩
  · intro now hn
    have hb := not_bars_of_le hc rfl hn
    have hst := standing_of_le hc rfl hn
    refine ⟨?_, ?_, ?_⟩
    · rw [Bool.eq_false_iff]
      exact fun hi => hb (BanList.isBanned_fst_iff.1 hi)
    · rw [BanList.get?_isBanned_self, hst]
    · rw [BanList.get?_recordFailure_self (hs c _ hc).2 hb, hst, Option.getD_none,
        ClientRecord.fail_of_lt rfl g.settings.threshold_pos]

/-- A client is banned by its second failure.  Then the clock goes back, others come in, and the
    client goes on guessing. -/
def lateGuesses : List Dealing :=
  [.inquiry (-7) (.recordFailure "203.0.113.9"), .inquiry 90000 (.isBanned "203.0.113.7"),
    .visit ⟨5999, fun _ _ => true, .login .post "203.0.113.9" ⟨"ann", "secret"⟩⟩]

theorem window_of_dealAll_late :
    ∃ b₁ b₂ u b, (briskGateway.dealAll {} (relapse.take 1)).1 = b₁ ∧
      briskGateway.deal b₁ (.inquiry 5000 (.recordFailure "203.0.113.9")) = (b₂, u) ∧
      (briskGateway.dealAll b₂ lateGuesses).1 = b ∧
      b.isBanned briskGateway.settings 5999 "203.0.113.9" = (true, b) ∧
      (b.isBanned briskGateway.settings 6000 "203.0.113.9").1 = false ∧
      (b.recordFailure briskGateway.settings 9223372036854775807 "203.0.113.9").2.get?
        "203.0.113.9" = some ⟨1, none⟩ := by
  obtain ⟨-, -, hin, hout⟩ := window_of_dealAll briskGateway (relapse.take 1) lateGuesses
    (.inquiry 5000 (.recordFailure "203.0.113.9")) rfl rfl rfl (by decide) rfl
  exact ⟨_, _, _, _, rfl, rfl, rfl, (hin 5999 (by decide)).1, (hout 6000 (by decide)).1,
    (hout 9223372036854775807 (by decide)).2.2⟩

end PlatformCore.Session
