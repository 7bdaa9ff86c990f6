/-
  Where accepted tokens come from.

  A token that is accepted was given out before with the very claims for which it is accepted, or
  its code was made by somebody else: nobody can put a token together from the parts of others.

  * `Grant` is a token that was given out, and `Gateway.grants` are those of a history;
  * `acceptance?` is what a dealing accepted, if it accepted a token;
  * `exists_validate_of_acceptance?`, `of_grant?`: both in terms of tokens and their claims;
  * `genuine_of_dealAll`: what is accepted in a run was granted before or forged.
-/
import PlatformCore.Proofs.Session.Acceptance
import PlatformCore.Proofs.Session.Course

namespace PlatformCore.Session

/-! ## What is given out -/

/-- A token that was given out, and what it says. -/
structure Grant where
  claims : Claims
  token : String

/-- The bytes that its code vouches for. -/
def Grant.payload (k : Grant) : List UInt8 :=
  Token.payload (Text.utf8 k.claims.login) k.claims.expiresAt

namespace Gateway

/-- The token that a dealing gave out, if it did. -/
def grant? (g : Gateway) : Dealing → Upshot → Option Grant
  | .inquiry now (.issue login ttlSecs), .finding (.token (.ok t)) =>
    some ⟨⟨login, Token.expiry now ttlSecs⟩, t⟩
  | .inquiry now (.issueSession login), .finding (.token (.ok t)) =>
    some ⟨⟨login, Token.expiry now g.settings.tokenTtlSecs.toNat⟩, t⟩
  | .visit ⟨now, _, .login _ _ c⟩, .outcome o =>
    o.token.map fun t => ⟨⟨c.login, Token.expiry now g.settings.tokenTtlSecs.toNat⟩, t⟩
  | _, _ => none

def grants (g : Gateway) (history : List (Dealing × Upshot)) : List Grant :=
  history.filterMap fun e => g.grant? e.1 e.2

end Gateway

/-! ## What is accepted -/

/-- What is told of a token that was accepted. -/
structure Acceptance where
  text : String
  login : String
  expiresAt : Option Int := none

/-- What a dealing accepted, if a token was presented and accepted. -/
def acceptance? : Dealing → Upshot → Option Acceptance
  | .inquiry _ (.claims token), .finding (.claims (.ok c)) => some ⟨token, c.login, c.expiresAt⟩
  | .inquiry _ (.validate token), .finding (.login (.ok login)) => some ⟨token, login, none⟩
  | .inquiry _ (.authenticate caller), .finding (.principal (some login)) =>
    caller.token.map (⟨·, login, none⟩)
  | .visit ⟨_, _, .whoAmI _ caller⟩, .outcome o =>
    if o.response.status = 200 then
      caller.token.bind fun token => o.response.principal.map (⟨token, ·, none⟩)
    else none
  | _, _ => none

variable {g : Gateway} {b : BanList} {d : Dealing} {ds : List Dealing} {u : Upshot}
  {pre post : List (Dealing × Upshot)} {now : Int} {login client token : String} {ttl : Nat}
  {caller : Caller} {a : Acceptance} {k : Grant}

/-! ## Both in terms of tokens -/

namespace Gateway

theorem authenticate_eq_some_iff :
    g.authenticate now caller = some login ↔
      ∃ token ∈ caller.token, ∃ e, Token.validate g.key now token = .ok ⟨login, e⟩ := by
  rcases ht : caller.token with _ | token
  · simp [authenticate, ht]
  · simp only [authenticate, ht, Option.bind_eq_bind, Option.bind_some, Option.mem_some_iff,
      exists_eq_left']
    rcases hv : Token.validate g.key now token with e | ⟨l, e⟩
    · simp
    · simp

theorem authenticate_of_principal_whoAmI {m : Http.Method}
    (h : (g.whoAmI now m caller).principal = some login) :
    g.authenticate now caller = some login := by
  rw [whoAmI] at h
  split at h
  · cases h
  · split at h
    · rename_i l hl
      cases h
      exact hl
    · cases h

theorem exists_validate_of_acceptance? (hu : u = (g.deal b d).2) (ha : acceptance? d u = some a) :
    ∃ e, Token.validate g.key d.now a.text = .ok ⟨a.login, e⟩ ∧ ∀ t ∈ a.expiresAt, t = e := by
  subst hu
  obtain ⟨now, verify, errand⟩ | ⟨now, q⟩ := d
  · cases errand with
    | login | logout => cases ha
    | whoAmI m caller =>
      obtain ⟨-, ha⟩ := Option.ite_none_right_eq_some.1 ha
      obtain ⟨token, ht, ha⟩ := Option.bind_eq_some_iff.1 ha
      obtain ⟨l, hl, rfl⟩ := Option.map_eq_some_iff.1 ha
      obtain ⟨_, ht', e, he⟩ := authenticate_eq_some_iff.1 (authenticate_of_principal_whoAmI hl)
      cases ht.symm.trans ht'
      exact ⟨e, he, fun _ ht => (Option.not_mem_none _ ht).elim⟩
  · cases q with
    | claims token =>
      simp only [deal, inquire] at ha
      rcases hv : Token.validate g.key now token with e | ⟨l, e⟩
      · rw [hv] at ha; cases ha
      · rw [hv] at ha; cases ha
        exact ⟨e, hv, fun t ht => (Option.mem_some_iff.1 ht).symm⟩
    | validate token =>
      simp only [deal, inquire] at ha
      rcases hv : Token.validate g.key now token with e | ⟨l, e⟩
      · rw [hv] at ha; cases ha
      · rw [hv] at ha; cases ha
        exact ⟨e, hv, fun _ ht => (Option.not_mem_none _ ht).elim⟩
    | authenticate caller =>
      simp only [deal, inquire] at ha
      rcases hp : g.authenticate now caller with _ | l
      · rw [hp] at ha; cases ha
      · rw [hp] at ha
        obtain ⟨token, ht, rfl⟩ := Option.map_eq_some_iff.1 ha
        obtain ⟨_, ht', e, he⟩ := authenticate_eq_some_iff.1 hp
        cases ht.symm.trans ht'
        exact ⟨e, he, fun _ ht => (Option.not_mem_none _ ht).elim⟩
    | _ => cases ha

theorem acceptance?_claims {c : Claims} (h : Token.validate g.key now token = .ok c) :
    acceptance? (.inquiry now (.claims token)) (g.deal b (.inquiry now (.claims token))).2 =
      some ⟨token, c.login, c.expiresAt⟩ := by
  simp only [deal, inquire, h, acceptance?]

theorem token_accept_eq_some_iff :
    (g.accept now client login b).token = some token ↔
      g.issueSessionToken now login = .ok token := by
  rw [accept]
  rcases g.issueSessionToken now login with e | t <;> simp

theorem of_grant? (hu : u = (g.deal b d).2) (hk : g.grant? d u = some k) :
    Clock.InRange k.claims.expiresAt ∧ k.token = Token.text g.key k.claims := by
  subst hu
  obtain ⟨now, verify, errand⟩ | ⟨now, q⟩ := d
  · cases errand with
    | logout | whoAmI => cases hk
    | login m client c =>
      obtain ⟨t, ht, rfl⟩ := Option.map_eq_some_iff.1 hk
      refine ⟨addCapped_inRange _ _, ?_⟩
      change (g.login verify now m client c b).token = some t at ht
      generalize ho : g.login verify now m client c b = o at ht
      have hl : Logs g verify now m client c b o := ho ▸ logs_login
      cases hl with
      | unsuited | refused | rejected => cases ht
      | accepted => exact (Token.issue_eq_ok_iff.1 (token_accept_eq_some_iff.1 ht)).2
  · cases q with
    | issue login ttl =>
      simp only [deal, inquire] at hk
      rcases hi : Token.issue g.key now login ttl with e | t
      · rw [hi] at hk; cases hk
      · rw [hi] at hk; cases hk
        exact ⟨addCapped_inRange _ _, (Token.issue_eq_ok_iff.1 hi).2⟩
    | issueSession login =>
      simp only [deal, inquire] at hk
      rcases hi : g.issueSessionToken now login with e | t
      · rw [hi] at hk; cases hk
      · rw [hi] at hk; cases hk
        exact ⟨addCapped_inRange _ _, (Token.issue_eq_ok_iff.1 hi).2⟩
    | _ => cases hk

end Gateway

/-! ## Every run -/

/-- **What is accepted was granted or forged.**  Whatever a gateway was asked, a text that it
    accepts for a login holds until some expiry, and either it is, but for blanks around it, a token
    that was given out before with this login and this expiry, or it carries the code of the two
    although no token was given out before whose code vouches for the same bytes. -/
theorem genuine_of_dealAll (h : (g.dealAll b ds).2 = pre ++ (d, u) :: post)
    (ha : acceptance? d u = some a) :
    ∃ e, (∀ t ∈ a.expiresAt, t = e) ∧ d.now ≤ e ∧
      ((∃ k ∈ g.grants pre, k.claims = ⟨a.login, e⟩ ∧
          Text.trim a.text.toList = k.token.toList) ∨
        ((∀ k ∈ g.grants pre, k.payload ≠ Token.payload (Text.utf8 a.login) e) ∧
          ∃ bytes, Base64.decode? (Text.trim a.text.toList) = some bytes ∧
            splitFromEnd Token.codeLength bytes =
              (Token.payload (Text.utf8 a.login) e,
                Hash.hmac g.key (Token.payload (Text.utf8 a.login) e)))) := by
  obtain ⟨b', hu⟩ := Gateway.exists_deal_of_mem (h ▸ List.mem_append_right _ List.mem_cons_self)
  obtain ⟨e, hv, ht⟩ := Gateway.exists_validate_of_acceptance? hu ha
  obtain ⟨-, he, hn, hs⟩ := Token.validate_eq_ok_iff.1 hv
  refine ⟨e, ht, hn, ?_⟩
  by_cases hp : ∃ k ∈ g.grants pre, k.payload = Token.payload (Text.utf8 a.login) e
  · obtain ⟨k, hk, hp⟩ := hp
    obtain ⟨⟨d', u'⟩, hm, hg⟩ := List.mem_filterMap.1 hk
    obtain ⟨b'', hu'⟩ := Gateway.exists_deal_of_mem (h ▸ List.mem_append_left _ hm)
    obtain ⟨he', hk'⟩ := Gateway.of_grant? hu' hg
    -- the payload tells the claims, and these the text
    obtain ⟨hl, hx⟩ := Token.payload_inj he' he hp
    refine .inl ⟨k, hk, ?_, ?_⟩
    · rw [← Text.utf8_injective hl, ← show k.claims.expiresAt = e from hx]
    · rw [hs, hk', Token.text, String.toList_ofList, ← hp]
      rfl
  · refine .inr ⟨fun k hk hp' => hp ⟨k, hk, hp'⟩, _, ?_, splitFromEnd_append rfl⟩
    rw [hs, Token.sealed, Base64.decode?_encode]

def keyedGateway : Gateway := ⟨{}, [1, 2, 3]⟩

/-- The token of a user for a minute. -/
def minuteToken : String := Token.text keyedGateway.key ⟨"ann", 60000⟩

def inspection : Dealing := .inquiry 60000 (.claims minuteToken)

theorem genuine_of_dealAll_minute :
    ∃ pre u, (keyedGateway.dealAll {} [.inquiry 0 (.issue "ann" 60), inspection]).2 =
        pre ++ [(inspection, u)] ∧
      acceptance? inspection u = some ⟨minuteToken, "ann", some 60000⟩ ∧
      ∃ k ∈ keyedGateway.grants pre, k.claims = ⟨"ann", 60000⟩ := by
  have hv : Token.validate keyedGateway.key 60000 minuteToken = .ok ⟨"ann", 60000⟩ :=
    Token.validate_text (by decide) (by decide) (Int.le_refl _)
  have ha : acceptance? inspection (keyedGateway.deal {} inspection).2 =
      some ⟨minuteToken, "ann", some 60000⟩ := Gateway.acceptance?_claims hv
  have hr : (keyedGateway.dealAll {} [.inquiry 0 (.issue "ann" 60), inspection]).2 =
      [(.inquiry 0 (.issue "ann" 60), .finding (.token (.ok minuteToken)))] ++
        (inspection, (keyedGateway.deal {} inspection).2) :: [] := rfl
  obtain ⟨e, he, -, ⟨k, hk, hc, -⟩ | ⟨hn, -⟩⟩ := genuine_of_dealAll hr ha
  · cases he _ rfl
    exact ⟨_, _, hr, ha, k, hk, hc⟩
  · cases he _ rfl
    exact absurd rfl (hn ⟨⟨"ann", 60000⟩, minuteToken⟩ (List.mem_singleton_self _))

end PlatformCore.Session
