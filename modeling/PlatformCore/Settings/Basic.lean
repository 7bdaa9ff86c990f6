/-
  Settings of the platform.

  There are four sections: the event bus, sessions (failures, bans, tokens, the cookie),
  telemetry, and the users known by name and password.  Each has defaults.

  * `SessionSettings.banLength` is the length of a ban in milliseconds; it is at least zero and
    never exceeds `Clock.latest`;
  * `CredentialEntry.display` shows an entry without its password.
-/
import PlatformCore.Clock
import PlatformCore.Text.Quoted

namespace PlatformCore

/-! ## Sections -/

structure BusSettings where
  capacity : UInt64 := 1000
  publishRetryMillis : UInt64 := 10
deriving DecidableEq, Repr

structure SessionSettings where
  maxLoginFailure : UInt32 := 5
  banLengthSecs : UInt64 := 300
  tokenTtlSecs : UInt64 := 3600
  trustedClients : List String := ["127.0.0.1", "::1", "localhost"]
  trustLoopback : Bool := true
  cookieName : String := "collab_token"
  cookiePath : String := "/"
deriving DecidableEq, Repr

namespace SessionSettings

def banLength (s : SessionSettings) : Int := millisOfSeconds s.banLengthSecs.toNat

/-- The number of failures at which a client is banned: at least one, whatever is set. -/
def threshold (s : SessionSettings) : Nat := max 1 s.maxLoginFailure.toNat

theorem banLength_nonneg (s : SessionSettings) : 0 ≤ s.banLength := millisOfSeconds_nonneg _

theorem banLength_le (s : SessionSettings) : s.banLength ≤ Clock.latest := millisOfSeconds_le _

theorem banLength_pos {s : SessionSettings} (h : 1 ≤ s.banLengthSecs) : 0 < s.banLength :=
  millisOfSeconds_pos (UInt64.le_iff_toNat_le.1 h)

theorem banLength_pos_iff {s : SessionSettings} : 0 < s.banLength ↔ s.banLengthSecs ≠ 0 := by
  constructor
  · rintro h h₀
    rw [banLength, h₀] at h
    exact absurd h (by decide)
  · intro h
    refine banLength_pos (UInt64.le_iff_toNat_le.2 ?_)
    exact Nat.pos_of_ne_zero fun h₀ => h (UInt64.toNat_inj.1 h₀)

theorem threshold_pos (s : SessionSettings) : 0 < s.threshold := Nat.le_max_left ..

theorem threshold_le (s : SessionSettings) : s.threshold ≤ 4294967295 := by
  have h := s.maxLoginFailure.toNat_lt
  simp only [threshold]; omega

end SessionSettings

structure TelemetrySettings where
  logLevel : String := "info"
  jsonLogs : Bool := false
  threadIds : Bool := true
deriving DecidableEq, Repr

/-- A user known by name and password. -/
structure CredentialEntry where
  login : String
  password : String
deriving DecidableEq, Repr

def CredentialEntry.display (e : CredentialEntry) : String :=
  "CredentialEntry \x7b login: " ++ Text.quote e.login ++ ", .. \x7d"

/-! ## The whole -/

structure Settings where
  bus : BusSettings := {}
  session : SessionSettings := {}
  telemetry : TelemetrySettings := {}
  credentials : List CredentialEntry := []
deriving DecidableEq, Repr

end PlatformCore
