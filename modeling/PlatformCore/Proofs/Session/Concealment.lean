/-
  What a ban conceals.

  The credentials of a banned client are not looked at.  So two courses of dealings that differ in
  nothing else cannot be told apart by anyone who does not read the log, and the banned client
  itself cannot tell its refusals from those of a wrong password.

  * `Alike` relates dealings that differ in the credentials of one client only, and
    `Upshot.unlogged` is what came of a dealing but for the log;
  * `deal_of_alike`, `dealAll_of_alike`: like dealings come to the same while the ban lasts;
  * `concealed_of_dealAll`: the two courses, and the answers of the banned client.
-/
import PlatformCore.Proofs.Session.Window
import Mathlib.Data.List.Forall2

namespace PlatformCore.Session

/-- Two dealings that are the same, but for the credentials of a client that logs in. -/
inductive Alike (c : String) : Dealing → Dealing → Prop
  | same (d : Dealing) : Alike c d d
  | login (now : Int) (verify : String → String → Bool) (k k' : Credentials) :
    Alike c (.visit ⟨now, verify, .login .post c k⟩) (.visit ⟨now, verify, .login .post c k'⟩)

/-- What came of a dealing, but for what the log was told. -/
def Upshot.unlogged : Upshot → Upshot
  | outcome o => outcome { o with notices := [] }
  | finding f => finding f

namespace Gateway

variable {g : Gateway} {b : BanList} {d d' : Dealing} {ms ms' : List Dealing} {c : String}
  {x : ClientRecord} {now t : Int} {verify : String → String → Bool} {k : Credentials} {u : Upshot}

theorem response_login_of_not_bars (hb : ¬ Bars (b.get? c) now g.settings.banLength)
    (hv : verify k.login k.password = false) :
    (g.login verify now .post c k b).response = .unauthorized := by
  generalize ho : g.login verify now .post c k b = o
  have hl : Logs g verify now .post c k b o := ho ▸ logs_login
  cases hl with
  | unsuited hm => exact absurd rfl hm
  | refused _ hn => exact absurd hn hb
  | accepted _ _ ha =>
    rw [hv] at ha
    cases ha
  | rejected => rfl

/-! ## One dealing, and a course of them -/

/-- While a client is banned, it does not matter with what credentials it logs in. -/
theorem deal_of_alike (hb : d.lookedUp? = some c → Bars (b.get? c) d.now g.settings.banLength)
    (ha : Alike c d d') :
    (g.deal b d').1 = (g.deal b d).1 ∧ (g.deal b d').2.unlogged = (g.deal b d).2.unlogged := by
  cases ha with
  | same => exact ⟨rfl, rfl⟩
  | login now verify k k' =>
    have hb : Bars (b.get? c) now g.settings.banLength := hb rfl
    simp only [deal, serve, login_of_bars hb, Upshot.unlogged, and_self]

theorem dealAll_of_alike (hx : x.bannedAt = some t)
    (hm : ∀ m ∈ ms, m.lookedUp? = some c → m.now < t + g.settings.banLength)
    (h : b.get? c = some x) (ha : List.Forall₂ (Alike c) ms ms') :
    (g.dealAll b ms').1 = (g.dealAll b ms).1 ∧
      (g.dealAll b ms').2.map (·.2.unlogged) = (g.dealAll b ms).2.map (·.2.unlogged) := by
  induction ha generalizing b with
  | nil => exact ⟨rfl, rfl⟩
  | cons hd _ ih =>
    obtain ⟨hm₁, hm⟩ := List.forall_mem_cons.1 hm
    obtain ⟨h₁, h₂⟩ := deal_of_alike (fun hc => bars_of_lt h hx (hm₁ hc)) hd
    obtain ⟨ih₁, ih₂⟩ := ih hm (get?_deal_of_window hx hm₁ h)
    simp only [dealAll, h₁, List.map_cons, h₂, ih₁, ih₂, and_self]

/-! ## The banned client -/

theorem response_of_mem_dealAll (hx : x.bannedAt = some t)
    (hm : ∀ m ∈ ms, m.lookedUp? = some c → m.now < t + g.settings.banLength)
    (h : b.get? c = some x)
    (hu : (.visit ⟨now, verify, .login .post c k⟩, u) ∈ (g.dealAll b ms).2) :
    ∃ o, u = .outcome o ∧ o.response = .unauthorized := by
  obtain ⟨hmem, b', hb', rfl⟩ := exists_deal_of_mem_of_forall (P := fun b => b.get? c = some x)
    (fun m hmem _ hb => get?_deal_of_window hx (hm m hmem) hb) h hu
  have hn : now < t + g.settings.banLength := hm _ hmem rfl
  refine ⟨_, rfl, ?_⟩
  change (g.login verify now .post c k b').response = .unauthorized
  rw [login_of_bars (bars_of_lt hb' hx hn)]

end Gateway

/-! ## Concealment -/

/-- **A ban conceals the credentials.**  Let a client have a ban, and let any dealings follow of
    which those that look at the client read a time before the end of the ban.  With any other
    credentials in its logins, the ban list comes out the same, and every dealing comes to the same:
    the answers to all clients, the events, the records of all clients, and whether the users were
    asked.  Each login of the client is answered like one with a wrong password of any client that
    is not banned. -/
theorem concealed_of_dealAll (g : Gateway) (b : BanList) (ms ms' : List Dealing) {c : String}
    {x : ClientRecord} {t : Int} (h : b.get? c = some x) (hx : x.bannedAt = some t)
    (hm : ∀ m ∈ ms, m.lookedUp? = some c → m.now < t + g.settings.banLength)
    (ha : List.Forall₂ (Alike c) ms ms') :
    (g.dealAll b ms').1 = (g.dealAll b ms).1 ∧
    (g.dealAll b ms').2.map (·.2.unlogged) = (g.dealAll b ms).2.map (·.2.unlogged) ∧
    ∀ now verify k u, (.visit ⟨now, verify, .login .post c k⟩, u) ∈ (g.dealAll b ms).2 →
      ∃ o, u = .outcome o ∧ ∀ verify' now' c' k' b',
        ¬ Bars (b'.get? c') now' g.settings.banLength → verify' k'.login k'.password = false →
        o.response = (g.login verify' now' .post c' k' b').response := by
  obtain ⟨h₁, h₂⟩ := Gateway.dealAll_of_alike hx hm h ha
  refine ⟨h₁, h₂, ?_⟩
  intro now verify k u hu
  obtain ⟨o, rfl, ho⟩ := Gateway.response_of_mem_dealAll hx hm h hu
  refine ⟨o, rfl, ?_⟩
  intro verify' now' c' k' b' hb hv
  rw [ho, Gateway.response_login_of_not_bars hb hv]

def annVerify (login password : String) : Bool := login == "ann" && password == "secret"

/-- A banned client logs in, and so do others. -/
def visitsWith (k : Credentials) : List Dealing :=
  [.visit ⟨5999, annVerify, .login .post "203.0.113.9" k⟩,
    .visit ⟨7000, annVerify, .login .post "203.0.113.7" ⟨"ann", ""⟩⟩,
    .inquiry (-7) (.recordFailure "203.0.113.9")]

theorem concealed_of_dealAll_secret :
    ∃ b x, (briskGateway.dealAll {} (relapse.take 2)).1 = b ∧
      b.get? "203.0.113.9" = some x ∧ x.bannedAt = some 5000 ∧
      (briskGateway.dealAll b (visitsWith ⟨"ann", "secret"⟩)).2.map (·.2.unlogged) =
        (briskGateway.dealAll b (visitsWith ⟨"", ""⟩)).2.map (·.2.unlogged) ∧
      annVerify "ann" "secret" = true ∧ annVerify "" "" = false := by
  obtain ⟨-, h, -⟩ := concealed_of_dealAll briskGateway
    (briskGateway.dealAll {} (relapse.take 2)).1 (visitsWith ⟨"", ""⟩) _ rfl rfl (by decide)
    (.cons (.login ..) (.cons (.same _) (.cons (.same _) .nil)))
  exact ⟨_, _, rfl, rfl, rfl, h, rfl, rfl⟩

end PlatformCore.Session
