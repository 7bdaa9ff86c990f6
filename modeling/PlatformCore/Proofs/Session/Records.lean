/-
  What the ban list keeps of a client.

  A record is begun by a failure, grows up to the threshold, and holds a ban exactly there: it is
  either removed or left alone from then on.  This does not depend on the clock, which may go back.

  * `ClientRecord.Sound` and `BanList.Sound` are the invariant;
  * `Sound.recordFailure`, `Sound.isBanned`: both operations keep it;
  * `recordFailure_fst_iff`: when a failure bans its client;
  * `sound_of_dealAll`: the invariant, and what it says of every answer, after every run.
-/
import PlatformCore.Proofs.Session.Course

namespace PlatformCore.Session

variable {s : SessionSettings} {b : BanList} {now : Int} {c : String} {x : ClientRecord} {M : Nat}

/-! ## Records -/

/-- A record as the ban list keeps it, where `M` failures ban a client. -/
structure ClientRecord.Sound (M : Nat) (x : ClientRecord) : Prop where
  pos : 1 ≤ x.failedAttempts
  le : x.failedAttempts ≤ M
  isSome_iff : x.bannedAt.isSome ↔ x.failedAttempts = M

theorem ClientRecord.Sound.lt (h : x.Sound M) (hb : x.bannedAt = none) : x.failedAttempts < M := by
  have hne : x.failedAttempts ≠ M := fun he => by simpa [hb] using h.isSome_iff.2 he
  exact Nat.lt_of_le_of_ne h.le hne

theorem ClientRecord.Sound.fail (hb : x.bannedAt = none) (hf : x.failedAttempts < s.threshold) :
    (x.fail s.maxLoginFailure.toNat now).Sound s.threshold := by
  rw [ClientRecord.fail_of_lt hb hf]
  refine ⟨Nat.succ_pos _, hf, ?_⟩
  rcases Nat.lt_or_eq_of_le (Nat.succ_le_of_lt hf) with hlt | he
  · simp [Nat.not_le.2 hlt, Nat.ne_of_lt hlt]
  · simp [← he]

theorem ClientRecord.isSome_bannedAt_fail_iff (hb : x.bannedAt = none)
    (hf : x.failedAttempts < s.threshold) :
    (x.fail s.maxLoginFailure.toNat now).bannedAt.isSome ↔
      x.fail s.maxLoginFailure.toNat now = ⟨s.threshold, some now⟩ := by
  rw [ClientRecord.fail_of_lt hb hf]
  rcases Nat.lt_or_eq_of_le (Nat.succ_le_of_lt hf) with hlt | he
  · simp [Nat.not_le.2 hlt]
  · simp [← he]

/-! ## The ban list -/

namespace BanList

/-- Every record is sound, and no trusted client has one. -/
def Sound (s : SessionSettings) (b : BanList) : Prop :=
  ∀ c, ∀ x ∈ b.get? c, x.Sound s.threshold ∧ isTrusted s c = false

theorem Sound.empty : Sound s {} := nofun

theorem Sound.get?_of_isTrusted (h : Sound s b) (ht : isTrusted s c = true) : b.get? c = none :=
  Option.eq_none_iff_forall_ne_some.2 fun x hx => by simpa [ht] using (h c x hx).2

/-- Where no ban lasts, the record that counts has room for another failure. -/
theorem Sound.standing (h : Sound s b) (hb : ¬ Bars (b.get? c) now s.banLength) :
    ((standing (b.get? c) now s.banLength).getD {}).bannedAt = none ∧
      ((standing (b.get? c) now s.banLength).getD {}).failedAttempts < s.threshold := by
  rcases hs : Session.standing (b.get? c) now s.banLength with _ | x
  · exact ⟨rfl, s.threshold_pos⟩
  · have hn : x.bannedAt = none := bannedAt_of_mem_standing hb hs
    have hx : x ∈ b.get? c := (Option.filter_eq_some_iff.1 hs).1
    exact ⟨hn, (h c x hx).1.lt hn⟩

theorem Sound.isBanned (h : Sound s b) : Sound s (b.isBanned s now c).2 := by
  intro d x hx
  by_cases hd : d = c
  · subst hd
    rw [get?_isBanned_self] at hx
    exact h d x (Option.filter_eq_some_iff.1 hx).1
  · rw [get?_isBanned_of_ne hd] at hx
    exact h d x hx

theorem Sound.recordFailure (h : Sound s b) : Sound s (b.recordFailure s now c).2 := by
  rcases ht : isTrusted s c with _ | _
  · by_cases hb : Bars (b.get? c) now s.banLength
    · rwa [recordFailure_of_bars hb]
    · intro d x hx
      by_cases hd : d = c
      · subst hd
        rw [get?_recordFailure_self ht hb] at hx
        cases hx
        obtain ⟨hn, hf⟩ := h.standing hb
        exact ⟨.fail hn hf, ht⟩
      · rw [get?_recordFailure_of_ne hd] at hx
        exact h d x hx
  · rwa [recordFailure_of_isTrusted ht]

/-- A failure bans its client exactly if no ban lasted and the record has come to the threshold,
    with a ban from that moment. -/
theorem Sound.recordFailure_fst_iff (h : Sound s b) :
    (b.recordFailure s now c).1 = true ↔
      ¬ Bars (b.get? c) now s.banLength ∧
        (b.recordFailure s now c).2.get? c = some ⟨s.threshold, some now⟩ := by
  rcases ht : isTrusted s c with _ | _
  · by_cases hb : Bars (b.get? c) now s.banLength
    · simp [recordFailure_of_bars hb, hb]
    · obtain ⟨hn, hf⟩ := h.standing hb
      rw [get?_recordFailure_self ht hb, recordFailure_of_not_bars ht hb _ rfl,
        ClientRecord.isSome_bannedAt_fail_iff hn hf]
      simp [hb]
  · simp [recordFailure_of_isTrusted ht, h.get?_of_isTrusted ht]

theorem Sound.isBanned_of_isTrusted (h : Sound s b) (ht : isTrusted s c = true) :
    b.isBanned s now c = (false, b) := by
  simp [BanList.isBanned, h.get?_of_isTrusted ht]

end BanList

/-! ## After every run -/

/-- **What is kept of a client.**  Whatever a gateway was asked, and however the clock went, every
    record counts at least one failure and at most as many as the threshold, holds a ban exactly at
    the threshold, and is not one of a trusted client.  A failure is reported to have banned its
    client exactly if no ban lasted and the record is now at the threshold, with a ban from that
    reading of the clock.  A trusted client is never reported to be banned. -/
theorem sound_of_dealAll (g : Gateway) (ds : List Dealing) (b : BanList)
    (h : (g.dealAll {} ds).1 = b) :
    (∀ c, ∀ x ∈ b.get? c,
      1 ≤ x.failedAttempts ∧ x.failedAttempts ≤ g.settings.threshold ∧
        (x.bannedAt.isSome ↔ x.failedAttempts = g.settings.threshold) ∧
        isTrusted g.settings c = false) ∧
    (∀ now c, (b.recordFailure g.settings now c).1 = true ↔
      ¬ Bars (b.get? c) now g.settings.banLength ∧
        (b.recordFailure g.settings now c).2.get? c = some ⟨g.settings.threshold, some now⟩) ∧
    ∀ now c, isTrusted g.settings c = true →
      (b.isBanned g.settings now c).1 = false ∧ (g.ensureNotBanned now c b).1 = .ok () := by
  have hs : BanList.Sound g.settings b :=
    h ▸ Gateway.bans_dealAll (fun _ _ _ => .recordFailure) (fun _ _ _ => .isBanned) .empty
  refine ⟨fun c x hx => ?_, fun now c => hs.recordFailure_fst_iff, fun now c ht => ?_⟩
  · obtain ⟨⟨hp, hl, hi⟩, ht⟩ := hs c x hx
    exact ⟨hp, hl, hi, ht⟩
  · rw [Gateway.ensureNotBanned, hs.isBanned_of_isTrusted ht]
    exact ⟨rfl, rfl⟩

/-- A gateway that bans for a second after two failures. -/
def briskGateway : Gateway where
  settings := { maxLoginFailure := 2, banLengthSecs := 1 }
  key := []

/-- A client is banned, its ban lapses, and it fails again. -/
def relapse : List Dealing :=
  [.inquiry 5000 (.recordFailure "203.0.113.9"), .inquiry 5000 (.recordFailure "203.0.113.9"),
    .inquiry 6000 (.recordFailure "203.0.113.9"), .inquiry 6000 (.recordFailure "127.0.0.1")]

theorem sound_of_dealAll_relapse :
    ∃ b, (briskGateway.dealAll {} relapse).1 = b ∧ b.get? "203.0.113.9" = some ⟨1, none⟩ ∧
      (b.recordFailure briskGateway.settings (-7) "203.0.113.9").1 = true ∧
      (b.isBanned briskGateway.settings (-7) "127.0.0.1").1 = false := by
  obtain ⟨-, hf, ht⟩ := sound_of_dealAll briskGateway relapse _ rfl
  exact ⟨_, rfl, rfl, (hf (-7) "203.0.113.9").2 ⟨by decide, rfl⟩, (ht (-7) "127.0.0.1" rfl).1⟩

end PlatformCore.Session
