/-
  Settings that the platform can run with.

  * `Settings.Valid`: a client may fail at least once, tokens live and the event queue holds at
    least one event, the cookie has a legal name, and no user has an empty login;
  * `Settings.fault?` is the first fault in that order, and `fault?_eq_none_iff` says that
    settings without a fault are the valid ones; `fault?_withUsers`: the defaults have none.
-/
import PlatformCore.Settings.Basic
import PlatformCore.Text.Blank

namespace PlatformCore

inductive SettingsFault where
  | noFailures
  | noLifetime
  | noCapacity
  | badCookieName (name : String)
  | emptyLogin (entry : CredentialEntry)
deriving DecidableEq, Repr

def SettingsFault.message : SettingsFault → String
  | noFailures => "auth.max_login_failure must be at least 1"
  | noLifetime => "auth.token_ttl_secs must be at least 1"
  | noCapacity => "bus.capacity must be at least 1"
  | badCookieName name =>
    "auth.cookie_name " ++ Text.quote name ++ " is not a valid cookie name"
  | emptyLogin e => "credential entry " ++ e.display ++ " has an empty login"

def isCookieNameChar (c : Char) : Bool := c != ';' && c != '=' && !Text.isBlank c

theorem isCookieNameChar_iff {c : Char} :
    isCookieNameChar c = true ↔ c ≠ ';' ∧ c ≠ '=' ∧ Text.isBlank c = false := by
  simp [isCookieNameChar, and_assoc]

/-- A name for a cookie: not empty, and without blanks, semicolons and equals signs. -/
def IsCookieName (s : String) : Prop := s ≠ "" ∧ ∀ c ∈ s.toList, isCookieNameChar c = true

instance (s : String) : Decidable (IsCookieName s) :=
  inferInstanceAs (Decidable (s ≠ "" ∧ ∀ c ∈ s.toList, isCookieNameChar c = true))

theorem isCookieName_default : IsCookieName ({} : SessionSettings).cookieName :=
  ⟨show "collab_token" ≠ "" by decide,
    List.all_eq_true.1 (show "collab_token".toList.all isCookieNameChar = true from rfl)⟩

namespace Settings

/-- Settings that the platform can run with. -/
def Valid (s : Settings) : Prop :=
  s.session.maxLoginFailure ≠ 0 ∧ s.session.tokenTtlSecs ≠ 0 ∧ s.bus.capacity ≠ 0 ∧
    IsCookieName s.session.cookieName ∧ ∀ e ∈ s.credentials, e.login ≠ ""

instance (s : Settings) : Decidable s.Valid :=
  inferInstanceAs (Decidable (_ ∧ _ ∧ _ ∧ _ ∧ _))

theorem Valid.capacity_pos {s : Settings} (h : s.Valid) : 0 < s.bus.capacity.toNat :=
  Nat.pos_of_ne_zero fun h₀ => h.2.2.1 (UInt64.toNat_inj.1 h₀)

def fault? (s : Settings) : Option SettingsFault :=
  if s.session.maxLoginFailure = 0 then some .noFailures
  else if s.session.tokenTtlSecs = 0 then some .noLifetime
  else if s.bus.capacity = 0 then some .noCapacity
  else if ¬ IsCookieName s.session.cookieName then some (.badCookieName s.session.cookieName)
  else (s.credentials.find? fun e => e.login = "").map .emptyLogin

/-- Settings without a fault are the valid ones. -/
theorem fault?_eq_none_iff {s : Settings} : s.fault? = none ↔ s.Valid := by
  simp only [fault?, Valid]
  by_cases h₁ : s.session.maxLoginFailure = 0
  · simp [h₁]
  by_cases h₂ : s.session.tokenTtlSecs = 0
  · simp [h₁, h₂]
  by_cases h₃ : s.bus.capacity = 0
  · simp [h₁, h₂, h₃]
  by_cases h₄ : IsCookieName s.session.cookieName
  · simp [h₁, h₂, h₃, h₄]
  · simp [h₁, h₂, h₃, h₄]

theorem fault?_withUsers {l : List CredentialEntry} (h : ∀ e ∈ l, e.login ≠ "") :
    ({ credentials := l } : Settings).fault? = none :=
  fault?_eq_none_iff.2 ⟨show (5 : UInt32) ≠ 0 by decide, show (3600 : UInt64) ≠ 0 by decide,
    show (1000 : UInt64) ≠ 0 by decide, isCookieName_default, h⟩

end Settings

end PlatformCore
