/-
  From a login to the next request and back.

  A token leaves in the text of a cookie, which has to pass as a header value.  A browser sends the
  cookie back, which has to pass again and to be read, cut at semicolons and equals signs, and
  trimmed.  Settings without a fault see to the cuts and the trimming, but not to the header values.

  * `IsCookieValue` is what a cookie can carry, and `isCookieValue_text` says that tokens are such;
  * `tokenOfHeaders?_pair`: what is found in a cookie that was sent back;
  * `header?_issue_eq_some_iff`, `browserHeaders?_issue`: which cookies are sent at all, and what a
    browser sends back of them;
  * `round_trip_of_login`: what becomes of the cookie of a login.
-/
import PlatformCore.Proofs.Session.Acceptance
import PlatformCore.Proofs.Session.Extraction
import PlatformCore.Proofs.Session.Standing

namespace PlatformCore.Session

open Http (Sendable Readable)
open Text (Every)

/-! ## What a cookie can carry -/

/-- A value that comes back from a cookie as it is: visible ASCII without semicolons. -/
structure IsCookieValue (t : String) : Prop where
  ne_empty : t ≠ ""
  visible : ∀ x ∈ t.toList, 33 ≤ x.toNat ∧ x.toNat < 127
  semicolon : ';' ∉ t.toList

theorem IsCookieValue.isBare {t : String} (h : IsCookieValue t) : IsBare t where
  ne_empty := h.ne_empty
  semicolon := h.semicolon
  head x hx := Text.isBlank_of_visible (h.visible x (List.mem_of_mem_head? hx))
  last x hx := Text.isBlank_of_visible (h.visible x (List.mem_of_getLast? hx))

theorem Token.isCookieValue_text {key : Key} {c : Claims} : IsCookieValue (text key c) := by
  have hm : ∀ x ∈ (text key c).toList, 43 ≤ x.toNat ∧ x.toNat ≤ 122 ∧ x.toNat ≠ 59 := by
    rw [text, String.toList_ofList]
    exact fun x hx => Base64.toNat_of_mem_encode hx
  refine ⟨fun h => ?_, fun x hx => ?_, fun h => (hm _ h).2.2 rfl⟩
  · -- the code alone has a length
    have hs : sealed key (payload (Text.utf8 c.login) c.expiresAt) = [] := by
      rw [← String.toList_ofList (l := sealed _ _), ← text, h]
      rfl
    have hd := Base64.decode?_encode
      (payload (Text.utf8 c.login) c.expiresAt ++
        Hash.hmac key (payload (Text.utf8 c.login) c.expiresAt))
    rw [← sealed, hs] at hd
    have hl := congrArg List.length (Option.some.inj hd)
    rw [List.length_append, Hash.length_hmac] at hl
    simp at hl
  · have := hm x hx
    omega

variable {k : SessionCookie} {t : String} {n : Nat} {v : Http.HeaderValue}

namespace SessionCookie

/-! ## The text of a cookie -/

/-- The cookie without its attributes, as a browser sends it back. -/
def pair (k : SessionCookie) (t : String) : String := k.name ++ "=" ++ t

theorem issue_eq : k.issue t n = k.pair t ++ k.attributes n := rfl

section
variable {p : Nat → Prop} (hp : ∀ n, Http.Printable n → p n)
include hp

theorem every_pair_iff (ht : IsCookieValue t) : Every p (k.pair t) ↔ Every p k.name := by
  have hv : Every p t := by
    intro x hx
    have := ht.visible x hx
    exact hp _ ⟨by omega, by omega⟩
  have he : Every p "=" := fun x hx => hp _ ((by decide : Every Http.Printable "=") x hx)
  simp only [pair, Text.every_append, he, hv, and_true]

theorem every_issue_iff (ht : IsCookieValue t) :
    Every p (k.issue t n) ↔ Every p k.name ∧ Every p k.path := by
  have hd : Every p (toString n) := by
    rw [Nat.toString_eq_ofList_toDigits, Every, String.toList_ofList]
    intro x hx
    obtain ⟨h₁, h₂⟩ : 48 ≤ x.toNat ∧ x.toNat ≤ 57 :=
      Char.isDigit_iff_toNat.1 (Nat.isDigit_of_mem_toDigits (by decide) (by decide) hx)
    exact hp _ ⟨by omega, by omega⟩
  have hs {s : String} (h : Every Http.Printable s) : Every p s := fun x hx => hp _ (h x hx)
  simp only [issue_eq, attributes, Text.every_append, hs (s := "; Max-Age=") (by decide),
    hs (s := "; Path=") (by decide), hs (s := "; Secure; HttpOnly") (by decide), hd, true_and,
    and_true, every_pair_iff hp ht]

end

/-! ## Finding the token -/

theorem tokenOfCookies?_pair (hk : IsCookieName k.name) (ht : IsCookieValue t) :
    k.tokenOfCookies? (k.pair t) = some t := by
  have h : k.tokenOfCookies? (cookieText ([] ++ ⟨k.name, t⟩ :: [])) = _ :=
    tokenOfCookies?_cookieText_append hk ht.semicolon nofun
  rw [ht.isBare.nonempty?_trim] at h
  exact h

/-- The token of a request with nothing but the cookie: it is found if the name can be read. -/
theorem tokenOfHeaders?_pair (hk : IsCookieName k.name) (ht : IsCookieValue t) :
    k.tokenOfHeaders? [(.cookie, ⟨Text.utf8 (k.pair t)⟩)] =
      if Every Readable k.name then some t else none := by
  have hc : Http.Headers.values [(.cookie, ⟨Text.utf8 (k.pair t)⟩)] .cookie =
      [⟨Text.utf8 (k.pair t)⟩] := rfl
  have ha : Http.Headers.values [(.cookie, ⟨Text.utf8 (k.pair t)⟩)] .authorization = [] := rfl
  have htext := Http.HeaderValue.text?_utf8 (s := k.pair t)
  simp only [every_pair_iff (fun _ h => h.readable) ht] at htext
  by_cases hr : Every Readable k.name
  · rw [if_pos hr] at htext
    simp only [tokenOfHeaders?, hc, List.filterMap_cons, List.filterMap_nil, htext,
      List.findSome?_cons, tokenOfCookies?_pair hk ht, if_pos hr]
  · rw [if_neg hr] at htext
    simp only [tokenOfHeaders?, hc, ha, List.filterMap_cons, List.filterMap_nil, htext,
      List.findSome?_nil, List.head?_nil, Option.bind_eq_bind, Option.bind_none, if_neg hr]

theorem takeWhile_issue (hk : IsCookieName k.name) (ht : IsCookieValue t) :
    String.ofList ((k.issue t n).toList.takeWhile (· ≠ ';')) = k.pair t := by
  have hc : (Cookie.mk k.name t).IsPlain := ⟨hk.2, ht.semicolon⟩
  rw [issue_eq]
  exact firstSegment_append_attributes hc n

end SessionCookie

/-! ## Sending the cookie, and sending it back -/

/-- The headers of a browser that was given a cookie: only the cookie, up to the first semicolon
    of the text. -/
def browserHeaders? (v : Http.HeaderValue) : Option Http.Headers := do
  let text ← Text.ofUtf8? v.bytes
  let cookie ← Http.HeaderValue.ofText? (String.ofList (text.toList.takeWhile (· ≠ ';')))
  return [(.cookie, cookie)]

theorem header?_issue_eq_some_iff {l : Option String} (ht : IsCookieValue t) :
    (Response.ok l (some (k.issue t n))).header? = some v ↔
      (Every Sendable k.name ∧ Every Sendable k.path) ∧
        v = ⟨Text.utf8 (k.issue t n)⟩ := by
  have hs := SessionCookie.every_issue_iff (k := k) (n := n) (fun _ h => h.readable.sendable) ht
  exact Http.HeaderValue.ofText?_eq_some_iff.trans (and_congr hs Iff.rfl)

/-- A cookie is sent as a text that can be read if there is only ASCII in its name and its path. -/
theorem isSome_text?_issue_iff (ht : IsCookieValue t) :
    (Http.HeaderValue.text? ⟨Text.utf8 (k.issue t n)⟩).isSome ↔
      Every Readable k.name ∧ Every Readable k.path := by
  have hr := SessionCookie.every_issue_iff (k := k) (n := n) (fun _ h => h.readable) ht
  rw [← hr, Http.HeaderValue.text?_utf8]
  split <;> simp_all

theorem browserHeaders?_issue (hk : IsCookieName k.name) (ht : IsCookieValue t)
    (hs : Every Sendable k.name) :
    browserHeaders? ⟨Text.utf8 (k.issue t n)⟩ =
      some [(.cookie, ⟨Text.utf8 (k.pair t)⟩)] := by
  have hp : Every Sendable (k.pair t) :=
    (SessionCookie.every_pair_iff (fun _ h => h.readable.sendable) ht).2 hs
  have ho := Http.HeaderValue.ofText?_eq_some_iff.2 ⟨hp, rfl⟩
  simp only [browserHeaders?, Text.ofUtf8?_utf8, Option.bind_eq_bind, Option.bind_some,
    SessionCookie.takeWhile_issue hk ht, ho, Option.pure_def]

/-! ## Logins -/

namespace Gateway

variable {g : Gateway} {verify : String → String → Bool} {now : Int} {m : Http.Method}
  {client : String} {c : Credentials} {b : BanList}

/-- The token of a login: the one text of its claims. -/
def loginToken (g : Gateway) (now : Int) (login : String) : String :=
  Token.text g.key ⟨login, Token.expiry now g.settings.tokenTtlSecs.toNat⟩

/-- A login that succeeds has a name, and is answered with the cookie of its token. -/
theorem response_login_of_status (h : (g.login verify now m client c b).response.status = 200) :
    c.login ≠ "" ∧ (g.login verify now m client c b).response =
      .ok (some c.login)
        (some (g.cookie.issue (g.loginToken now c.login) g.settings.tokenTtlSecs.toNat)) := by
  generalize ho : g.login verify now m client c b = o at h ⊢
  have hl : Logs g verify now m client c b o := ho ▸ logs_login
  cases hl with
  | unsuited | refused | rejected => cases h
  | accepted =>
    rw [accept] at h ⊢
    rcases hi : g.issueSessionToken now c.login with e | t
    · rw [hi] at h; cases h
    · obtain ⟨hn, ht⟩ := Token.issue_eq_ok_iff.1 hi
      exact ⟨hn, by rw [loginToken, ← ht]⟩

/-- A token of a login is taken up until it expires, and nothing else is looked at. -/
theorem whoAmI_loginToken {now' : Int} {login : String} (hl : login ≠ "")
    (hn : now' ≤ Token.expiry now g.settings.tokenTtlSecs.toNat) :
    g.whoAmI now' .get ⟨client, some (g.loginToken now login)⟩ = .ok (some login) none := by
  have hv : Token.validate g.key now' (g.loginToken now login) =
      .ok ⟨login, Token.expiry now g.settings.tokenTtlSecs.toNat⟩ :=
    Token.validate_text hl (addCapped_inRange _ _) hn
  rw [whoAmI, if_neg (not_not_intro rfl), authenticate]
  simp only [Option.bind_eq_bind, Option.bind_some, hv]

theorem isSome_header?_login_iff (ho : (g.login verify now m client c b).response.status = 200) :
    (g.login verify now m client c b).response.header?.isSome ↔
      Every Sendable g.cookie.name ∧ Every Sendable g.cookie.path := by
  rw [(response_login_of_status ho).2, Option.isSome_iff_exists]
  simp only [header?_issue_eq_some_iff Token.isCookieValue_text, exists_and_left, exists_eq,
    and_true, loginToken]

theorem isSome_text?_login_iff {v : Http.HeaderValue}
    (ho : (g.login verify now m client c b).response.status = 200)
    (hv : (g.login verify now m client c b).response.header? = some v) :
    v.text?.isSome ↔ Every Readable g.cookie.name ∧ Every Readable g.cookie.path := by
  have ht : IsCookieValue (g.loginToken now c.login) := Token.isCookieValue_text
  rw [(response_login_of_status ho).2, header?_issue_eq_some_iff ht] at hv
  rw [hv.2, isSome_text?_issue_iff ht]

/-- What a browser sends back says who logged in, if the name of the cookie can be read. -/
theorem whoAmI_browserHeaders? {v : Http.HeaderValue} (hk : IsCookieName g.cookie.name)
    (ho : (g.login verify now m client c b).response.status = 200)
    (hv : (g.login verify now m client c b).response.header? = some v) :
    ∃ h, browserHeaders? v = some h ∧ ∀ client' now',
      now' ≤ Token.expiry now g.settings.tokenTtlSecs.toNat →
        g.whoAmI now' .get (.ofHeaders client' h g.cookie) =
          if Every Readable g.cookie.name then .ok (some c.login) none else .unauthorized := by
  have ht : IsCookieValue (g.loginToken now c.login) := Token.isCookieValue_text
  obtain ⟨hl, hr⟩ := response_login_of_status ho
  rw [hr, header?_issue_eq_some_iff ht] at hv
  obtain ⟨⟨hn, -⟩, rfl⟩ := hv
  refine ⟨_, browserHeaders?_issue hk ht hn, fun client' now' hnow => ?_⟩
  rw [Caller.ofHeaders, SessionCookie.tokenOfHeaders?_pair hk ht]
  split
  · exact whoAmI_loginToken hl hnow
  · rfl

end Gateway

/-- **From a login to the next request and back.**  With settings without a fault, the cookie of a
    login is sent exactly if there is no control character but a tab in its name and its path, and
    it can be read as a header value exactly if they are ASCII as well.  What a browser sends back
    of it says who logged in, until the token expires, if the name is ASCII.  If it is not, the
    request is answered as if there were no cookie. -/
theorem round_trip_of_login {s : Settings} {g : Gateway} {verify : String → String → Bool}
    {now : Int} {m : Http.Method} {client : String} {c : Credentials} {b : BanList}
    (hs : s.fault? = none) (hg : g.settings = s.session)
    (ho : (g.login verify now m client c b).response.status = 200) :
    ((g.login verify now m client c b).response.header?.isSome ↔
      Every Sendable s.session.cookieName ∧ Every Sendable s.session.cookiePath) ∧
    ∀ v, (g.login verify now m client c b).response.header? = some v →
      (v.text?.isSome ↔ Every Readable s.session.cookieName ∧ Every Readable s.session.cookiePath) ∧
      ∃ h, browserHeaders? v = some h ∧ ∀ client' now',
        now' ≤ Token.expiry now s.session.tokenTtlSecs.toNat →
          g.whoAmI now' .get (.ofHeaders client' h g.cookie) =
            if Every Readable s.session.cookieName then .ok (some c.login) none
            else .unauthorized := by
  have hk : IsCookieName g.cookie.name := by
    rw [Gateway.cookie, hg]
    exact (Settings.fault?_eq_none_iff.1 hs).2.2.2.1
  rw [← hg]
  exact ⟨Gateway.isSome_header?_login_iff ho, fun v hv =>
    ⟨Gateway.isSome_text?_login_iff ho hv, Gateway.whoAmI_browserHeaders? hk ho hv⟩⟩

def cookieSettings (name : String) : Settings := { session := { cookieName := name } }

theorem fault?_cookieSettings {name : String} (h₁ : name ≠ "")
    (h₂ : name.toList.all isCookieNameChar = true) : (cookieSettings name).fault? = none :=
  Settings.fault?_eq_none_iff.2
    ⟨show (5 : UInt32) ≠ 0 by decide, show (3600 : UInt64) ≠ 0 by decide,
      show (1000 : UInt64) ≠ 0 by decide, ⟨h₁, List.all_eq_true.1 h₂⟩, nofun⟩

def cookieGateway (name : String) : Gateway := ⟨(cookieSettings name).session, [1, 2, 3]⟩

def openLogin (name : String) : Outcome :=
  (cookieGateway name).login (fun _ _ => true) 0 .post "10.0.0.1" ⟨"ann", "pw"⟩ {}

theorem round_trip_of_login_sid :
    (cookieSettings "sid").fault? = none ∧ ∃ v h, (openLogin "sid").response.header? = some v ∧
      browserHeaders? v = some h ∧ ∀ client' now', now' ≤ 3600000 →
        (cookieGateway "sid").whoAmI now' .get (.ofHeaders client' h (cookieGateway "sid").cookie) =
          .ok (some "ann") none := by
  have hf := fault?_cookieSettings (show "sid" ≠ "" by decide) rfl
  obtain ⟨hs, hw⟩ := @round_trip_of_login (cookieSettings "sid") (cookieGateway "sid")
    (fun _ _ => true) 0 .post "10.0.0.1" ⟨"ann", "pw"⟩ {} hf rfl rfl
  obtain ⟨v, hv⟩ := Option.isSome_iff_exists.1 (hs.2 (by decide))
  obtain ⟨-, h, hh, hw⟩ := hw v hv
  refine ⟨hf, v, h, hv, hh, fun client' now' hn => ?_⟩
  rw [hw client' now' hn]
  exact if_pos (by decide)

/-- Settings without a fault do not see to it that the cookie of a login comes back. -/
theorem not_round_trip_of_control :
    ¬ ∀ (s : Settings) (g : Gateway) (verify : String → String → Bool) (now : Int)
        (m : Http.Method) (client : String) (c : Credentials) (b : BanList),
      s.fault? = none → g.settings = s.session →
      (g.login verify now m client c b).response.status = 200 →
      ∃ v h, (g.login verify now m client c b).response.header? = some v ∧
        browserHeaders? v = some h ∧ ∀ client' now',
          now' ≤ Token.expiry now s.session.tokenTtlSecs.toNat →
            g.whoAmI now' .get (.ofHeaders client' h g.cookie) = .ok (some c.login) none := by
  intro hall
  -- a control character is neither a blank nor a delimiter
  have hf := fault?_cookieSettings (show "s\x01id" ≠ "" by decide) rfl
  obtain ⟨v, -, hv, -⟩ := hall (cookieSettings "s\x01id") (cookieGateway "s\x01id")
    (fun _ _ => true) 0 .post "10.0.0.1" ⟨"ann", "pw"⟩ {} hf rfl rfl
  have hn := (Gateway.isSome_header?_login_iff (g := cookieGateway "s\x01id") rfl).1
    (Option.isSome_iff_exists.2 ⟨v, hv⟩)
  exact absurd hn.1 (by decide)

end PlatformCore.Session
