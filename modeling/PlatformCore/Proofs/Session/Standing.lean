/-
  What a client's record comes to when it is looked at.

  A ban that has lapsed is not swept away, so two records can stand for the same client: the one
  that is kept, and the one that counts.  Both operations of the ban list act on the second.

  * `standing` is the record that counts at a reading, and `Bars` says that it holds a ban;
  * `isBanned_fst_iff`, `get?_isBanned_self`, `recordFailure_of_bars` and
    `recordFailure_of_not_bars`: the two operations in these terms;
  * `Logs` is the relation of logins: one constructor for each way in which one can end, and
    `logs_login` says that it has every login;
  * `get?_bans_login_of_ne`, `get?_bans_reject`: what a login does to the records.
-/
import PlatformCore.Session.Gateway

namespace PlatformCore.Session

/-! ## Records -/

/-- A record, if there is one, holds a ban that lasts at a reading. -/
def Bars (r : Option ClientRecord) (now length : Int) : Prop := ∃ x ∈ r, x.BanActive now length

instance (r : Option ClientRecord) (now length : Int) : Decidable (Bars r now length) :=
  match h : r with
  | some x => decidable_of_iff (x.BanActive now length) (by simp [Bars])
  | none => isFalse (by simp [Bars])

/-- The record that counts at a reading: one with a ban that has lapsed does not. -/
def standing (r : Option ClientRecord) (now length : Int) : Option ClientRecord :=
  r.filter fun x => x.bannedAt.isNone || x.BanActive now length

variable {r : Option ClientRecord} {x : ClientRecord} {now length : Int} {s : SessionSettings}

theorem standing_none : standing none now length = none := rfl

theorem standing_of_bars (h : Bars r now length) : standing r now length = r := by
  obtain ⟨x, hx, ha⟩ := h
  cases Option.mem_def.1 hx
  simp [standing, ha]

theorem standing_of_bannedAt_eq_none (h : x.bannedAt = none) :
    standing (some x) now length = some x := by
  simp [standing, h]

theorem standing_of_lapsed (h : x.bannedAt ≠ none) (ha : ¬ x.BanActive now length) :
    standing (some x) now length = none := by
  simp [standing, ha, h]

theorem bannedAt_of_mem_standing (h : ¬ Bars r now length) (hx : x ∈ standing r now length) :
    x.bannedAt = none := by
  obtain ⟨hr, hs⟩ := Option.filter_eq_some_iff.1 (Option.mem_def.1 hx)
  rcases Bool.or_eq_true _ _ ▸ hs with hn | ha
  · exact Option.isNone_iff_eq_none.1 hn
  · exact absurd ⟨x, hr, of_decide_eq_true ha⟩ h

theorem standing_standing : standing (standing r now length) now length = standing r now length := by
  simp [standing, Option.filter_filter]

theorem bars_standing_iff : Bars (standing r now length) now length ↔ Bars r now length := by
  constructor
  · rintro ⟨x, hx, ha⟩
    exact ⟨x, (Option.filter_eq_some_iff.1 (Option.mem_def.1 hx)).1, ha⟩
  · intro h
    rwa [standing_of_bars h]

theorem ClientRecord.fail_of_lt (hb : x.bannedAt = none) (hf : x.failedAttempts < s.threshold) :
    x.fail s.maxLoginFailure.toNat now =
      ⟨x.failedAttempts + 1, if s.threshold ≤ x.failedAttempts + 1 then some now else none⟩ := by
  have hn : min (x.failedAttempts + 1) maxFailures = x.failedAttempts + 1 := by
    have := s.threshold_le
    simp only [maxFailures]; omega
  have hm : s.maxLoginFailure.toNat ≤ x.failedAttempts + 1 ↔ s.threshold ≤ x.failedAttempts + 1 := by
    simp only [SessionSettings.threshold]; omega
  simp only [fail, hn, hm, hb]

/-! ## The ban list -/

namespace BanList

variable {b : BanList} {c : String}

theorem isBanned_of_bars (h : Bars (b.get? c) now s.banLength) :
    b.isBanned s now c = (true, b) := by
  obtain ⟨x, hx, ha⟩ := h
  have hn : x.bannedAt.isNone = false := by
    obtain ⟨t, ht, -⟩ := ha
    rw [Option.mem_def.1 ht]; rfl
  simp [isBanned, Option.mem_def.1 hx, hn, ha]

/-- A client is banned exactly if its record bars it. -/
theorem isBanned_fst_iff :
    (b.isBanned s now c).1 = true ↔ Bars (b.get? c) now s.banLength := by
  refine ⟨fun h => ?_, fun h => by rw [isBanned_of_bars h]⟩
  rcases hr : b.get? c with _ | x
  · simp [isBanned, hr] at h
  · by_cases ha : x.BanActive now s.banLength
    · exact ⟨x, rfl, ha⟩
    · simp only [isBanned, hr, ha, if_false] at h
      split at h <;> cases h

theorem isBanned_of_not_bars (h : ¬ Bars (b.get? c) now s.banLength) :
    b.isBanned s now c = (false, (b.isBanned s now c).2) := by
  have hf : (b.isBanned s now c).1 = false :=
    Bool.eq_false_iff.2 fun hi => h (isBanned_fst_iff.1 hi)
  rw [← hf]

/-- A client that was looked at is left with the record that counts. -/
theorem get?_isBanned_self :
    (b.isBanned s now c).2.get? c = standing (b.get? c) now s.banLength := by
  by_cases h : Bars (b.get? c) now s.banLength
  · rw [isBanned_of_bars h, standing_of_bars h]
  · rcases hr : b.get? c with _ | x
    · rw [isBanned, hr, standing_none]
      exact hr
    · have ha : ¬ x.BanActive now s.banLength := fun ha => h ⟨x, hr, ha⟩
      by_cases hn : x.bannedAt = none
      · simp [isBanned, hr, hn, standing_of_bannedAt_eq_none]
      · rw [standing_of_lapsed hn ha]
        simp only [isBanned, hr, Option.isNone_iff_eq_none, hn, ha, if_false]
        exact Registry.get?_erase_self

theorem recordFailure_of_bars (h : Bars (b.get? c) now s.banLength) :
    b.recordFailure s now c = (false, b) := by
  obtain ⟨x, hx, ha⟩ := h
  simp [recordFailure, Option.mem_def.1 hx, ha]

theorem recordFailure_of_not_bars (ht : isTrusted s c = false)
    (h : ¬ Bars (b.get? c) now s.banLength) (r : ClientRecord)
    (hr : r = ((standing (b.get? c) now s.banLength).getD {}).fail s.maxLoginFailure.toNat now) :
    b.recordFailure s now c = (r.bannedAt.isSome, ⟨b.records.insert c r⟩) := by
  have ha : ¬ ((b.get? c).getD {}).BanActive now s.banLength := by
    rcases hr : b.get? c with _ | x
    · simp [ClientRecord.BanActive]
    · exact fun ha => h ⟨x, hr, ha⟩
  have hs : (if ((b.get? c).getD {}).bannedAt.isSome then {} else (b.get? c).getD {}) =
      (standing (b.get? c) now s.banLength).getD {} := by
    rcases hr : b.get? c with _ | x
    · rfl
    · rw [hr] at ha
      by_cases hn : x.bannedAt = none
      · simp [hn, standing_of_bannedAt_eq_none]
      · rw [standing_of_lapsed hn ha]
        simp [Option.isSome_iff_ne_none, hn]
  simp only [recordFailure, ht, Bool.false_eq_true, if_false, ha, hs, ← hr]

theorem get?_recordFailure_self (ht : isTrusted s c = false)
    (h : ¬ Bars (b.get? c) now s.banLength) :
    (b.recordFailure s now c).2.get? c =
      some (((standing (b.get? c) now s.banLength).getD {}).fail s.maxLoginFailure.toNat now) := by
  rw [recordFailure_of_not_bars ht h _ rfl]
  exact Registry.get?_insert_self

end BanList

/-! ## Logins -/

/-- How a login ends. -/
inductive Logs (g : Gateway) (verify : String → String → Bool) (now : Int) (m : Http.Method)
    (client : String) (c : Credentials) (b : BanList) : Outcome → Prop
  | unsuited (hm : m ≠ .post) :
    Logs g verify now m client c b { response := .methodNotAllowed, bans := b }
  | refused (hm : m = .post) (hb : Bars (b.get? client) now g.settings.banLength) :
    Logs g verify now m client c b
      { response := .unauthorized
        bans := b
        notices := [.refused client c.login (.clientBanned client)] }
  | accepted (hm : m = .post) (hb : ¬ Bars (b.get? client) now g.settings.banLength)
      (hv : verify c.login c.password = true) :
    Logs g verify now m client c b
      (g.accept now client c.login (b.isBanned g.settings now client).2)
  | rejected (hm : m = .post) (hb : ¬ Bars (b.get? client) now g.settings.banLength)
      (hv : verify c.login c.password = false) :
    Logs g verify now m client c b
      (g.reject now client c.login (b.isBanned g.settings now client).2)

namespace Gateway

variable {g : Gateway} {verify : String → String → Bool} {m : Http.Method} {client d : String}
  {c : Credentials} {b : BanList} {o : Outcome} {login : String}

theorem logs_login : Logs g verify now m client c b (g.login verify now m client c b) := by
  by_cases hm : m = .post
  · by_cases hb : Bars (b.get? client) now g.settings.banLength
    · rw [Gateway.login, if_neg (not_not_intro hm), ensureNotBanned, BanList.isBanned_of_bars hb]
      exact .refused hm hb
    · rw [Gateway.login, if_neg (not_not_intro hm), ensureNotBanned,
        BanList.isBanned_of_not_bars hb]
      rcases hv : verify c.login c.password with _ | _
      · simp only [Bool.false_eq_true, if_false]
        exact .rejected hm hb hv
      · simp only [if_true]
        exact .accepted hm hb hv
  · rw [Gateway.login, if_pos hm]
    exact .unsuited hm

theorem login_of_bars (hb : Bars (b.get? client) now g.settings.banLength) :
    g.login verify now .post client c b =
      { response := .unauthorized
        bans := b
        notices := [.refused client c.login (.clientBanned client)] } := by
  generalize ho : g.login verify now .post client c b = o
  have hl : Logs g verify now .post client c b o := ho ▸ logs_login
  cases hl with
  | unsuited hm => exact absurd rfl hm
  | refused => rfl
  | accepted _ hn | rejected _ hn => exact absurd hb hn

@[simp] theorem consulted_accept : (g.accept now client login b).consulted = true := by
  rw [accept]; split <;> rfl

@[simp] theorem bans_accept : (g.accept now client login b).bans = b := by
  rw [accept]; split <;> rfl

@[simp] theorem consulted_reject : (g.reject now client login b).consulted = true := rfl

theorem bans_recordFailure :
    (g.recordFailure now client b).2.1 = (b.recordFailure g.settings now client).2 := by
  rw [recordFailure]
  rcases b.recordFailure g.settings now client with ⟨_ | _, b'⟩ <;> rfl

theorem bans_ensureNotBanned :
    (g.ensureNotBanned now client b).2 = (b.isBanned g.settings now client).2 := by
  rw [ensureNotBanned]
  rcases b.isBanned g.settings now client with ⟨_ | _, b'⟩ <;> rfl

@[simp] theorem bans_reject :
    (g.reject now client login b).bans = (b.recordFailure g.settings now client).2 :=
  bans_recordFailure

theorem consulted_login_eq_false_iff :
    (g.login verify now .post client c b).consulted = false ↔
      Bars (b.get? client) now g.settings.banLength := by
  refine ⟨fun h => ?_, fun hb => by rw [login_of_bars hb]⟩
  generalize ho : g.login verify now .post client c b = o at h
  have hl : Logs g verify now .post client c b o := ho ▸ logs_login
  cases hl with
  | unsuited hm => exact absurd rfl hm
  | refused _ hb => exact hb
  | accepted =>
    rw [consulted_accept] at h
    cases h
  | rejected =>
    rw [consulted_reject] at h
    cases h

theorem get?_bans_login_of_ne (h : d ≠ client) :
    (g.login verify now m client c b).bans.get? d = b.get? d := by
  generalize ho : g.login verify now m client c b = o
  have hl : Logs g verify now m client c b o := ho ▸ logs_login
  cases hl with
  | unsuited | refused => rfl
  | accepted => rw [bans_accept, BanList.get?_isBanned_of_ne h]
  | rejected =>
    rw [bans_reject, BanList.get?_recordFailure_of_ne h, BanList.get?_isBanned_of_ne h]

theorem get?_bans_reject (ht : isTrusted g.settings client = false)
    (hb : ¬ Bars (b.get? client) now g.settings.banLength) :
    (g.reject now client login (b.isBanned g.settings now client).2).bans.get? client =
      some (((standing (b.get? client) now g.settings.banLength).getD {}).fail
        g.settings.maxLoginFailure.toNat now) := by
  have hs : (b.isBanned g.settings now client).2.get? client =
      standing (b.get? client) now g.settings.banLength := BanList.get?_isBanned_self
  rw [bans_reject, BanList.get?_recordFailure_self ht (by rwa [hs, bars_standing_iff]), hs,
    standing_standing]

end Gateway

end PlatformCore.Session
