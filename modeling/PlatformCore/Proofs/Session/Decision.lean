/-
  Who is let in.

  A platform knows its users from its settings, where a login may stand several times: the last
  entry counts, and of it only the digest of the password.  Settings without a fault have no empty
  login, so whoever the users accept is given a token.

  * `Admits` says this of a list of entries, and `verify_ofEntries_iff` that the users of the
    settings are those that it lets in;
  * `Desk.Keeps` is what every order to a platform keeps of its desk;
  * `Decided` is all that a login comes to, and `decided_of_assemble` says that every login on every
    platform with valid settings comes to it.
-/
import Mathlib.Data.List.Induction
import PlatformCore.Proofs.Session.Lifetime
import PlatformCore.Proofs.Session.RoundTrip
import PlatformCore.Proofs.Session.Window
import PlatformCore.Service

namespace PlatformCore.Session

/-! ## Users -/

/-- The last entry with this login has this password, as far as its digest tells. -/
def Admits (l : List CredentialEntry) (k : Credentials) : Prop :=
  ∃ before e after, l = before ++ e :: after ∧ e.login = k.login ∧
    (∀ x ∈ after, x.login ≠ k.login) ∧
    Hash.sha256 (Text.utf8 k.password) = Hash.sha256 (Text.utf8 e.password)

variable {l : List CredentialEntry} {k : Credentials} {s : Settings}

theorem Admits.login_ne (h : Admits l k) (hl : ∀ e ∈ l, e.login ≠ "") : k.login ≠ "" := by
  obtain ⟨before, e, after, rfl, he, -⟩ := h
  rw [← he]
  exact hl e (by simp)

namespace UserStore

theorem get?_ofEntries {login : String} : (ofEntries l).digests.get? login =
    (l.reverse.find? (·.login = login)).map (passwordDigest ·.password) := by
  induction l using List.reverseRecOn with
  | nil => rfl
  | append_singleton l e ih =>
    have hc : ofEntries (l ++ [e]) = (ofEntries l).insert e.login e.password := by simp [ofEntries]
    rw [hc, insert, Registry.get?_insert, ih, List.reverse_concat, List.find?_cons]
    by_cases he : login = e.login
    · simp [he]
    · simp [he, Ne.symm he]

/-- **The users of the settings** are those whom the last entry with their login admits. -/
theorem verify_ofEntries_iff : (ofEntries l).verify k.login k.password = true ↔ Admits l k := by
  rw [verify, get?_ofEntries, beq_iff_eq, Option.map_eq_some_iff]
  constructor
  · rintro ⟨e, he, hp⟩
    obtain ⟨hl, after, before, hr, hn⟩ := List.find?_eq_some_iff_append.1 he
    refine ⟨before.reverse, e, after.reverse, ?_, by simpa using hl, ?_, hp.symm⟩
    · rw [← l.reverse_reverse, hr]
      simp
    · intro x hx
      simpa using hn x (List.mem_reverse.1 hx)
  · rintro ⟨before, e, after, rfl, hl, hn, hp⟩
    refine ⟨e, List.find?_eq_some_iff_append.2
      ⟨by simpa using hl, after.reverse, before.reverse, ?_, ?_⟩, hp.symm⟩
    · simp
    · intro x hx
      simpa using hn x (List.mem_reverse.1 hx)

end UserStore

/-! ## The desk of a platform -/

/-- A desk with the settings and the users of a platform, whatever it was asked. -/
structure Desk.Keeps (s : Settings) (d : Desk) : Prop where
  settings_eq : d.gateway.settings = s.session
  users_eq : d.users = .ofEntries s.credentials
  sound : d.bans.Sound s.session

namespace Desk.Keeps

variable {d : Desk}

theorem replyToken {r : Except SessionError String} (h : d.Keeps s) :
    (d.replyToken r).1.Keeps s := by
  cases r <;> exact ⟨h.settings_eq, h.users_eq, h.sound⟩

/-- **A desk keeps its settings and its users**, and the records on its ban list are sound. -/
theorem serve (h : d.Keeps s) (q : Request) : (d.serve q).1.Keeps s := by
  have hs : d.bans.Sound d.gateway.settings := h.settings_eq ▸ h.sound
  have hi (i : Inquiry) : (d.serve i.request).1.bans.Sound s.session := by
    rw [(Desk.serve_inquiry d i _ rfl).1, ← h.settings_eq]
    exact hs.deal (d := .inquiry d.clock.now i)
  have hv (e : Errand) : (d.serve e.request).1.bans.Sound s.session := by
    rw [(Desk.serve_request d e _ rfl).1, ← h.settings_eq]
    exact hs.deal (d := .visit ⟨d.clock.now, d.users.verify, e⟩)
  cases q with
  | issue | issueSession => exact h.replyToken
  | recordFailure client => exact ⟨h.settings_eq, h.users_eq, hi (.recordFailure client)⟩
  | isBanned client => exact ⟨h.settings_eq, h.users_eq, hi (.isBanned client)⟩
  | ensureNotBanned client =>
    have hb := hi (.ensureNotBanned client)
    simp only [Inquiry.request, Desk.serve] at hb ⊢
    split at hb <;> exact ⟨h.settings_eq, h.users_eq, hb⟩
  | restart key => exact ⟨h.settings_eq, h.users_eq, .empty⟩
  | login m client k => exact ⟨h.settings_eq, h.users_eq, hv (.login m client k)⟩
  | _ => exact ⟨h.settings_eq, h.users_eq, h.sound⟩

theorem perform {p : Platform} (h : p.desk.Keeps s) (o : Platform.Order) :
    (p.perform o).1.desk.Keeps s := by
  cases o with
  | session q =>
    simp only [Platform.perform]
    split
    · exact h
    · exact h.serve q
  | stage | start => exact h
  | shutdown =>
    simp only [Platform.perform]
    split <;> exact h

theorem after {p : Platform} (h : p.desk.Keeps s) (os : List Platform.Order) :
    (p.after os).desk.Keeps s := by
  induction os generalizing p with
  | nil => exact h
  | cons o os ih => exact ih (h.perform o)

end Desk.Keeps

theorem exists_assemble (key : Token.Key) (clock : Clock) (hs : s.Valid) :
    ∃ p marks, Platform.assemble s key clock = .ok (p, marks) ∧ p.desk.Keeps s := by
  have hstart : Stage.start s.bus.capacity.toNat = .ok { bus := ⟨_, hs.capacity_pos, [], false,
      true, .selecting, ∅, .empty, {}⟩ } := by
    rw [Stage.start, Bus.start, dif_pos hs.capacity_pos]
    rfl
  refine ⟨_, _, by rw [Platform.assemble, hstart]; rfl, rfl, rfl, .empty⟩

/-! ## What a login comes to -/

/-- The failures that count against a client at a reading. -/
def BanList.countedFailures (b : BanList) (s : SessionSettings) (now : Int) (client : String) :
    Nat :=
  ((standing (b.get? client) now s.banLength).map (·.failedAttempts)).getD 0

/-- All that a login comes to at a desk with these settings and users. -/
structure Decided (s : SessionSettings) (l : List CredentialEntry) (d : Desk) (now : Int)
    (m : Http.Method) (client : String) (k : Credentials) (o : Outcome) : Prop where
  unsuited : m ≠ .post → o = { response := .methodNotAllowed, bans := d.bans }
  status_eq_iff : m = .post → (o.response.status = 200 ↔
    ¬ Bars (d.bans.get? client) now s.banLength ∧ Admits l k)
  /-- A success carries a token that holds, and no failure is counted. -/
  granted : o.response.status = 200 → ∃ token e, o.token = some token ∧
    o.response = .ok (some k.login)
      (some ((SessionCookie.ofSettings s).issue token s.tokenTtlSecs.toNat)) ∧
    Token.validate d.gateway.key now token = .ok ⟨k.login, e⟩ ∧
    o.bans.countedFailures s now client = d.bans.countedFailures s now client
  denied : m = .post → o.response.status ≠ 200 → o.response = .unauthorized
  banned : m = .post → Bars (d.bans.get? client) now s.banLength →
    o.bans = d.bans ∧ o.consulted = false ∧ o.events = []
  /-- One failure more counts against any other client, unless it is trusted. -/
  counted : m = .post → o.response.status ≠ 200 → ¬ Bars (d.bans.get? client) now s.banLength →
    if isTrusted s client then o.bans = d.bans
    else o.bans.failedAttempts client = d.bans.countedFailures s now client + 1
  others : ∀ c ≠ client, o.bans.get? c = d.bans.get? c
  /-- Nobody whom the users accepted goes without a token. -/
  issued : ∀ c e, .notIssued c e ∉ o.notices

namespace Gateway

variable {g : Gateway} {now : Int} {client login : String} {b : BanList}

theorem accept_of_ne (hl : login ≠ "") :
    g.accept now client login b =
      { response := .ok (some login)
          (some (g.cookie.issue (g.loginToken now login) g.settings.tokenTtlSecs.toNat))
        bans := b
        consulted := true
        token := some (g.loginToken now login) } := by
  rw [accept, issueSessionToken, Token.issue_eq_ok_iff.2 ⟨hl, rfl⟩]
  rfl

theorem notIssued_notMem_reject {c : String} {e : SessionError} :
    .notIssued c e ∉ (g.reject now client login b).notices := by
  rw [reject, recordFailure]
  rcases b.recordFailure g.settings now client with ⟨_ | _, b'⟩ <;> simp

theorem bans_reject_of_isTrusted (hs : b.Sound g.settings)
    (ht : isTrusted g.settings client = true) :
    (g.reject now client login (b.isBanned g.settings now client).2).bans = b := by
  rw [bans_reject, hs.isBanned_of_isTrusted ht, BanList.recordFailure_of_isTrusted ht]

theorem failedAttempts_bans_reject (hs : b.Sound g.settings)
    (ht : isTrusted g.settings client = false)
    (hb : ¬ Bars (b.get? client) now g.settings.banLength) :
    (g.reject now client login (b.isBanned g.settings now client).2).bans.failedAttempts client =
      b.countedFailures g.settings now client + 1 := by
  obtain ⟨hn, hf⟩ := hs.standing hb
  rw [BanList.failedAttempts, get?_bans_reject ht hb, ClientRecord.fail_of_lt hn hf,
    BanList.countedFailures]
  rcases standing (b.get? client) now g.settings.banLength with _ | x <;> rfl

end Gateway

section
variable {s : SessionSettings} {d : Desk} {now : Int} {m : Http.Method} {client : String}

/-- **Every login is decided so.** -/
theorem decided_login (hs : d.gateway.settings = s) (hu : d.users = .ofEntries l)
    (hb : d.bans.Sound s) (hl : ∀ e ∈ l, e.login ≠ "") (hn : Clock.InRange now) :
    Decided s l d now m client k (d.gateway.login d.users.verify now m client k d.bans) := by
  subst hs
  have hv : d.users.verify k.login k.password = true ↔ Admits l k :=
    hu ▸ UserStore.verify_ofEntries_iff
  have ho : ∀ c ≠ client, (d.gateway.login d.users.verify now m client k d.bans).bans.get? c =
      d.bans.get? c := fun c hc => Gateway.get?_bans_login_of_ne hc
  generalize he : d.gateway.login d.users.verify now m client k d.bans = o at ho ⊢
  have hlogs : Logs d.gateway d.users.verify now m client k d.bans o := he ▸ Gateway.logs_login
  cases hlogs with
  | unsuited hm =>
    exact {
      unsuited := fun _ => rfl
      status_eq_iff := fun h => absurd h hm
      granted := nofun
      denied := fun h => absurd h hm
      banned := fun h => absurd h hm
      counted := fun h => absurd h hm
      others := ho
      issued := fun _ _ => List.not_mem_nil }
  | refused hm hbars =>
    exact {
      unsuited := fun h => absurd hm h
      status_eq_iff := fun _ => ⟨nofun, fun h => absurd hbars h.1⟩
      granted := nofun
      denied := fun _ _ => rfl
      banned := fun _ _ => ⟨rfl, rfl, rfl⟩
      counted := fun _ _ h => absurd hbars h
      others := ho
      issued := fun _ _ => by simp }
  | accepted hm hbars hok =>
    have hadm := hv.1 hok
    have hne := hadm.login_ne hl
    have hcount : (d.bans.isBanned d.gateway.settings now client).2.countedFailures
        d.gateway.settings now client = d.bans.countedFailures d.gateway.settings now client := by
      simp only [BanList.countedFailures, BanList.get?_isBanned_self, standing_standing]
    rw [Gateway.accept_of_ne hne] at ho ⊢
    exact {
      unsuited := fun h => absurd hm h
      status_eq_iff := fun _ => ⟨fun _ => ⟨hbars, hadm⟩, fun _ => rfl⟩
      granted := fun _ => ⟨_, _, rfl, rfl,
        Token.validate_text hne Token.expiry_inRange (Token.le_expiry hn), hcount⟩
      denied := fun _ h => absurd rfl h
      banned := fun _ h => absurd h hbars
      counted := fun _ h => absurd rfl h
      others := ho
      issued := fun _ _ => List.not_mem_nil }
  | rejected hm hbars hno =>
    have hadm : ¬ Admits l k := fun h => by simp [hv.2 h] at hno
    refine {
      unsuited := fun h => absurd hm h
      status_eq_iff := fun _ => ⟨nofun, fun h => absurd h.2 hadm⟩
      granted := nofun
      denied := fun _ _ => rfl
      banned := fun _ h => absurd h hbars
      counted := fun _ _ _ => ?_
      others := ho
      issued := fun _ _ => Gateway.notIssued_notMem_reject }
    split
    · next ht => exact Gateway.bans_reject_of_isTrusted hb ht
    · next ht => exact Gateway.failedAttempts_bans_reject hb (Bool.eq_false_iff.2 ht) hbars

end

/-- **The decision on a login.**  Valid settings make a platform.  Whatever it was told to do
    before, and whatever the clock reads, a login by the method that acts succeeds exactly if the
    client is not banned and the last entry with its login admits it.  Then there is always a token,
    and it holds.  In every other case it is answered like a wrong password, and one failure is
    counted, unless the client is trusted or banned.  By any other method nothing happens. -/
theorem decided_of_assemble (s : Settings) (key : Token.Key) (clock : Clock)
    (hs : s.fault? = none) :
    ∃ p marks, Platform.assemble s key clock = .ok (p, marks) ∧
      ∀ (os : List Platform.Order) (now : Int) (m : Http.Method) (client : String)
        (k : Credentials) (d : Desk), d = (p.after os).desk → Clock.InRange now →
        Decided s.session s.credentials d now m client k
          (d.gateway.login d.users.verify now m client k d.bans) := by
  have hvalid := Settings.fault?_eq_none_iff.1 hs
  obtain ⟨p, marks, hp, hkeeps⟩ := exists_assemble key clock hvalid
  refine ⟨p, marks, hp, ?_⟩
  rintro os now m client k d rfl hn
  have h := hkeeps.after os
  exact decided_login h.settings_eq h.users_eq h.sound hvalid.2.2.2.2 hn

/-- Settings in which a login stands twice. -/
def renewedSettings : Settings :=
  { credentials := [⟨"ann", "old"⟩, ⟨"bob", "pw"⟩, ⟨"ann", "new"⟩] }

theorem fault?_renewedSettings : renewedSettings.fault? = none :=
  Settings.fault?_withUsers (by simp)

theorem decided_of_assemble_renewed :
    ∃ p marks d token e, Platform.assemble renewedSettings [] ⟨0⟩ = .ok (p, marks) ∧
      d = (p.after [.session (.recordFailure "203.0.113.9")]).desk ∧
      (d.gateway.login d.users.verify 7 .post "203.0.113.9" ⟨"ann", "new"⟩ d.bans).token =
        some token ∧
      Token.validate d.gateway.key 7 token = .ok ⟨"ann", e⟩ := by
  obtain ⟨p, marks, hp, h⟩ := decided_of_assemble renewedSettings [] ⟨0⟩ fault?_renewedSettings
  have hd := h [.session (.recordFailure "203.0.113.9")] 7 .post "203.0.113.9" ⟨"ann", "new"⟩ _ rfl
    (by decide)
  have hbars : ¬ Bars ((p.after [.session (.recordFailure "203.0.113.9")]).desk.bans.get?
      "203.0.113.9") 7 renewedSettings.session.banLength := by
    cases hp
    decide
  have hadm : Admits renewedSettings.credentials ⟨"ann", "new"⟩ :=
    ⟨[⟨"ann", "old"⟩, ⟨"bob", "pw"⟩], ⟨"ann", "new"⟩, [], rfl, rfl, by simp, rfl⟩
  obtain ⟨token, e, ht, -, hok, -⟩ := hd.granted ((hd.status_eq_iff rfl).2 ⟨hbars, hadm⟩)
  exact ⟨p, marks, _, token, e, hp, rfl, ht, hok⟩

end PlatformCore.Session
