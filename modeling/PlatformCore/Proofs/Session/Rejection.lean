/-
  What visits are announced as.

  The users turn down a login, and this is announced; if the failure banned the client, this is
  announced after it.  No other visit is announced.  A ban uses up the failures that were counted
  until then, so there are at least as many rejections as there are bans times the threshold.

  * `Visit.isTurnedDown` and `Visit.isBan` tell of a visit what it came to, and
    `isTurnedDown_login_iff` and `isBan_login_iff` when a login comes to it;
  * `events_serve`: the events of a visit are those that belong to it;
  * `BanList.unspent` are the failures that are kept without a ban;
  * `threshold_mul_countP_isBan_le`: bans and rejections in a list of visits.
-/
import PlatformCore.Proofs.Session.Window

namespace PlatformCore.Session

/-! ## What a visit came to -/

/-- The users were asked about a login, and turned it down. -/
def Visit.isTurnedDown (v : Visit) (o : Outcome) : Bool :=
  match v.errand with
  | .login m _ k => m = .post && o.consulted && !v.verify k.login k.password
  | _ => false

/-- A login was turned down, and its client is left with a ban. -/
def Visit.isBan (v : Visit) (o : Outcome) : Bool :=
  match v.errand with
  | .login _ client _ => v.isTurnedDown o && (o.bans.get? client).any (·.bannedAt.isSome)
  | _ => false

/-- The events that belong to a visit. -/
def Visit.alarms (v : Visit) (o : Outcome) : List Event :=
  match v.errand with
  | .login _ client k =>
    if v.isTurnedDown o then rejectionEvents client k.login (v.isBan o) else []
  | _ => []

variable {s : SessionSettings} {b : BanList} {now : Int} {c : String} {g : Gateway} {v : Visit}

/-- A failure is reported to have banned its client if it leaves it with a ban. -/
theorem BanList.recordFailure_fst_eq (hb : ∀ x ∈ b.get? c, x.bannedAt = none) :
    (b.recordFailure s now c).1 =
      ((b.recordFailure s now c).2.get? c).any (·.bannedAt.isSome) := by
  have hn : ¬ Bars (b.get? c) now s.banLength := by
    rintro ⟨x, hx, t, ht, -⟩
    rw [hb x hx] at ht
    cases ht
  rcases ht : isTrusted s c with _ | _
  · rw [get?_recordFailure_self ht hn, recordFailure_of_not_bars ht hn _ rfl]
    rfl
  · rw [recordFailure_of_isTrusted ht]
    rcases hr : b.get? c with _ | x
    · rfl
    · rw [Option.any_some, hb x hr]
      rfl

theorem bannedAt_of_mem_isBanned {x : ClientRecord}
    (hb : ¬ Bars (b.get? c) now s.banLength) (hx : x ∈ (b.isBanned s now c).2.get? c) :
    x.bannedAt = none := by
  rw [BanList.get?_isBanned_self] at hx
  exact bannedAt_of_mem_standing hb hx

/-! ## Announcements -/

theorem countP_cons_eq_toNat_add {α : Type} {p : α → Bool} {a : α} {l : List α} :
    (a :: l).countP p = (p a).toNat + l.countP p := by
  rcases h : p a with _ | _
  · rw [List.countP_cons_of_neg (by simp [h]), Bool.toNat_false, Nat.zero_add]
  · rw [List.countP_cons_of_pos h, Bool.toNat_true, Nat.add_comm]

namespace Visit

variable {o : Outcome} {e : Event} {l : List (Visit × Outcome)} {p : Event → Bool}
  {q : Visit → Outcome → Bool}

theorem isTurnedDown_of_isBan (h : v.isBan o = true) : v.isTurnedDown o = true := by
  rw [isBan] at h
  split at h
  · exact (Bool.and_eq_true_iff.1 h).1
  · cases h

theorem alarms_of_isTurnedDown (h : v.isTurnedDown o = true) :
    ∃ client login, v.alarms o = rejectionEvents client login (v.isBan o) := by
  obtain ⟨now, verify, e⟩ := v
  cases e with
  | login m client k => exact ⟨client, k.login, if_pos h⟩
  | logout | whoAmI => cases h

theorem alarms_eq_nil (h : v.isTurnedDown o = false) : v.alarms o = [] := by
  rw [alarms]
  split
  · rw [h]
    rfl
  · rfl

theorem kind_of_mem_alarms (h : e ∈ v.alarms o) :
    e.kind = .loginFailed ∨ e.kind = .clientBanned := by
  rcases ht : v.isTurnedDown o with _ | _
  · rw [alarms_eq_nil ht] at h
    cases h
  · obtain ⟨client, login, ha⟩ := alarms_of_isTurnedDown ht
    rw [ha, rejectionEvents] at h
    rcases List.mem_cons.1 h with rfl | h
    · exact .inl rfl
    · split at h
      · exact .inr (congrArg Event.kind (List.mem_singleton.1 h))
      · cases h

theorem countP_loginFailed_alarms :
    (v.alarms o).countP (·.kind = .loginFailed) = (v.isTurnedDown o).toNat := by
  rcases ht : v.isTurnedDown o with _ | _
  · rw [alarms_eq_nil ht]
    rfl
  · obtain ⟨client, login, ha⟩ := alarms_of_isTurnedDown ht
    rw [ha]
    cases v.isBan o <;> simp +decide [rejectionEvents, loginFailedEvent, clientBannedEvent]

theorem countP_clientBanned_alarms :
    (v.alarms o).countP (·.kind = .clientBanned) = (v.isBan o).toNat := by
  rcases ht : v.isTurnedDown o with _ | _
  · have hb : v.isBan o = false :=
      Bool.eq_false_iff.2 fun hb => Bool.false_ne_true (ht.symm.trans (isTurnedDown_of_isBan hb))
    rw [alarms_eq_nil ht, hb]
    rfl
  · obtain ⟨client, login, ha⟩ := alarms_of_isTurnedDown ht
    rw [ha]
    cases v.isBan o <;> simp +decide [rejectionEvents, loginFailedEvent, clientBannedEvent]

/-- Events of a kind that visits have at most once are as many as those visits. -/
theorem countP_flatMap_alarms (h : ∀ v o, (alarms v o).countP p = (q v o).toNat) :
    (l.flatMap fun x => x.1.alarms x.2).countP p = l.countP fun x => q x.1 x.2 := by
  induction l with
  | nil => rfl
  | cons x l ih =>
    rw [List.flatMap_cons, List.countP_append, ih, h]
    exact (countP_cons_eq_toNat_add (p := fun x : Visit × Outcome => q x.1 x.2)).symm

end Visit

namespace Gateway

/-- A login is turned down if its method is right, its client is not banned, and the users do not
    know it. -/
theorem isTurnedDown_login_iff {verify : String → String → Bool} {m : Http.Method}
    {k : Credentials} :
    Visit.isTurnedDown ⟨now, verify, .login m c k⟩ (g.login verify now m c k b) = true ↔
      m = .post ∧ (b.isBanned g.settings now c).1 = false ∧ verify k.login k.password = false := by
  have hi : (b.isBanned g.settings now c).1 = true ↔
      Bars (b.get? c) now g.settings.banLength := BanList.isBanned_fst_iff
  generalize ho : g.login verify now m c k b = o
  have hl : Logs g verify now m c k b o := ho ▸ logs_login
  cases hl with
  | unsuited hm => simp [Visit.isTurnedDown, hm]
  | refused hm hb => simp [Visit.isTurnedDown, hi.2 hb]
  | accepted hm hb hv => simp [Visit.isTurnedDown, hv]
  | rejected hm hb hv => simp [Visit.isTurnedDown, hm, hv, Bool.eq_false_iff.2 (mt hi.1 hb)]

/-- A login that was turned down bans its client if the failure is reported to do so. -/
theorem isBan_login_iff {verify : String → String → Bool} {m : Http.Method} {k : Credentials} :
    Visit.isBan ⟨now, verify, .login m c k⟩ (g.login verify now m c k b) = true ↔
      Visit.isTurnedDown ⟨now, verify, .login m c k⟩ (g.login verify now m c k b) = true ∧
        ((b.isBanned g.settings now c).2.recordFailure g.settings now c).1 = true := by
  generalize ho : g.login verify now m c k b = o
  have hl : Logs g verify now m c k b o := ho ▸ logs_login
  cases hl with
  | unsuited hm => simp [Visit.isBan, Visit.isTurnedDown, hm]
  | refused | accepted _ _ hv => simp [Visit.isBan, Visit.isTurnedDown, *]
  | rejected hm hb hv =>
    rw [BanList.recordFailure_fst_eq fun x hx => bannedAt_of_mem_isBanned hb hx]
    simp [Visit.isBan, Visit.isTurnedDown, hm, hv]

/-- **A visit is announced as what it came to.** -/
theorem events_serve : (g.serve b v).events = v.alarms (g.serve b v) := by
  obtain ⟨now, verify, e⟩ := v
  cases e with
  | logout | whoAmI => rfl
  | login m client k =>
    change (g.login verify now m client k b).events =
      Visit.alarms ⟨now, verify, .login m client k⟩ (g.login verify now m client k b)
    generalize ho : g.login verify now m client k b = o
    have hl : Logs g verify now m client k b o := ho ▸ logs_login
    cases hl with
    | unsuited hm => simp [Visit.alarms, Visit.isTurnedDown]
    | refused => simp [Visit.alarms, Visit.isTurnedDown]
    | accepted hm hb hv =>
      simp [Visit.alarms, Visit.isTurnedDown, hv, events_accept]
    | rejected hm hb hv =>
      rw [events_reject, BanList.recordFailure_fst_eq fun x hx => bannedAt_of_mem_isBanned hb hx]
      simp [Visit.alarms, Visit.isTurnedDown, Visit.isBan, hv, hm]

end Gateway

/-! ## Failures and bans -/

/-- The failures that a record holds without a ban. -/
def ClientRecord.unspent (x : ClientRecord) : Nat :=
  if x.bannedAt.isNone then x.failedAttempts else 0

theorem ClientRecord.unspent_le {M n : Nat} {t : Int} :
    M * (if M ≤ n then some t else none).isSome.toNat +
      unspent ⟨n, if M ≤ n then some t else none⟩ ≤ n := by
  split
  · next h => simpa [unspent] using h
  · simp [unspent]

/-- The failures that are kept without a ban. -/
def BanList.unspent (b : BanList) : Nat := b.records.sum (·.unspent)

theorem BanList.unspent_isBanned : (b.isBanned s now c).2.unspent = b.unspent := by
  simp only [isBanned]
  split
  · rfl
  · next x hx =>
    split
    · rfl
    · next hn =>
      split
      · rfl
      · have hsum := Registry.sum_erase (·.unspent) (r := b.records) (k := c)
        have hw : x.unspent = 0 := if_neg hn
        rw [show b.records.get? c = some x from hx, Option.map_some, Option.getD_some, hw] at hsum
        exact hsum

theorem BanList.unspent_recordFailure (hs : b.Sound s) (hb : ∀ x ∈ b.get? c, x.bannedAt = none) :
    s.threshold * (b.recordFailure s now c).1.toNat + (b.recordFailure s now c).2.unspent ≤
      b.unspent + 1 := by
  rcases ht : isTrusted s c with _ | _
  · have hn : ¬ Bars (b.get? c) now s.banLength := by
      rintro ⟨x, hx, t, ht, -⟩
      rw [hb x hx] at ht
      cases ht
    obtain ⟨hnone, hlt⟩ := hs.standing hn
    have hst : standing (b.get? c) now s.banLength = b.get? c := by
      rcases hr : b.get? c with _ | x
      · rfl
      · exact standing_of_bannedAt_eq_none (hb x hr)
    rw [hst] at hnone hlt
    have hold : ((b.records.get? c).map (·.unspent)).getD 0 =
        ((b.get? c).getD {}).failedAttempts := by
      change ((b.get? c).map (·.unspent)).getD 0 = _
      rcases hr : b.get? c with _ | x
      · rfl
      · rw [Option.map_some, Option.getD_some, Option.getD_some, ClientRecord.unspent, hb x hr]
        rfl
    rw [recordFailure_of_not_bars ht hn _ rfl, hst, ClientRecord.fail_of_lt hnone hlt]
    generalize (b.get? c).getD {} = x at hold
    have hsum := @Registry.sum_insert _ _ _ b.records c
      ⟨x.failedAttempts + 1, if s.threshold ≤ x.failedAttempts + 1 then some now else none⟩
      (·.unspent)
    have hle := ClientRecord.unspent_le (M := s.threshold) (n := x.failedAttempts + 1) (t := now)
    rw [hold] at hsum
    simp only [unspent]
    omega
  · rw [recordFailure_of_isTrusted ht]
    simp only [Bool.toNat_false, Nat.mul_zero, Nat.zero_add]
    exact Nat.le_succ _

namespace Gateway

variable {vs : List Visit}

theorem sound_serve (hs : b.Sound g.settings) : (g.serve b v).bans.Sound g.settings :=
  hs.deal (d := .visit v)

/-- **A visit that bans a client uses up failures**, and only a rejection adds one. -/
theorem unspent_serve (hs : b.Sound g.settings) :
    g.settings.threshold * (v.isBan (g.serve b v)).toNat + (g.serve b v).bans.unspent ≤
      (v.isTurnedDown (g.serve b v)).toNat + b.unspent := by
  obtain ⟨now, verify, e⟩ := v
  cases e with
  | logout | whoAmI => simp [Visit.isBan, Visit.isTurnedDown, serve]
  | login m client k =>
    change g.settings.threshold *
        (Visit.isBan ⟨now, verify, .login m client k⟩ (g.login verify now m client k b)).toNat +
        (g.login verify now m client k b).bans.unspent ≤
      (Visit.isTurnedDown ⟨now, verify, .login m client k⟩
        (g.login verify now m client k b)).toNat + b.unspent
    generalize ho : g.login verify now m client k b = o
    have hl : Logs g verify now m client k b o := ho ▸ logs_login
    cases hl with
    | unsuited | refused => simp [Visit.isBan, Visit.isTurnedDown]
    | accepted hm hb hv =>
      simp [Visit.isBan, Visit.isTurnedDown, hv, BanList.unspent_isBanned]
    | rejected hm hb hv =>
      have hn := fun x hx => bannedAt_of_mem_isBanned (s := g.settings) (x := x) hb hx
      have hf := @BanList.unspent_recordFailure g.settings _ now client hs.isBanned hn
      rw [BanList.recordFailure_fst_eq hn, BanList.unspent_isBanned] at hf
      simpa [Visit.isBan, Visit.isTurnedDown, hv, hm, Nat.add_comm 1] using hf

/-- **Bans and rejections.**  To every ban there are as many rejections as the threshold says. -/
theorem threshold_mul_countP_isBan_le (hs : b.Sound g.settings) :
    g.settings.threshold * (g.serveAll b vs).2.countP (fun x => x.1.isBan x.2) +
        (g.serveAll b vs).1.unspent ≤
      (g.serveAll b vs).2.countP (fun x => x.1.isTurnedDown x.2) + b.unspent := by
  induction vs generalizing b with
  | nil => simp [serveAll]
  | cons v vs ih =>
    have h₁ := unspent_serve (v := v) hs
    have h₂ := ih (sound_serve (v := v) hs)
    simp only [serveAll, countP_cons_eq_toNat_add, Nat.mul_add]
    omega

end Gateway

end PlatformCore.Session
