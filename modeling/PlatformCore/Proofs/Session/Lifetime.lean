/-
  How long a token holds.

  A token holds from the moment at which it is issued for as long as was asked, to the millisecond,
  unless the clock cannot show the end: then it holds as long as the clock goes.  Neither the length
  nor the sum ever goes round, so no token is born expired.

  * `expiry_eq` is the time of expiry over the integers, without any bound on what is computed;
  * `validate_text_of_lt`: what becomes of a token that is too old;
  * `lifetime_of_issue`: what becomes of an issued token at every reading of the clock.
-/
import Mathlib.Algebra.Group.Int.Defs
import Mathlib.Algebra.Group.Nat.Defs
import PlatformCore.Proofs.Session.Acceptance

namespace PlatformCore.Session.Token

variable {key : Key} {now : Int} {ttl : Nat} {c : Claims}

/-! ## The time of expiry -/

theorem expiry_inRange : Clock.InRange (expiry now ttl) := addCapped_inRange _ _

theorem le_expiry (h : Clock.InRange now) : now ≤ expiry now ttl :=
  le_addCapped h (millisOfSeconds_nonneg ttl)

/-- Only the upper bound is ever met, once by the length and once by the sum. -/
theorem expiry_eq (h : Clock.InRange now) :
    expiry now ttl = min (2 ^ 63 - 1) (now + min (1000 * (ttl : Int)) (2 ^ 63 - 1)) := by
  rw [expiry, addCapped_eq_min h (millisOfSeconds_nonneg ttl), millisOfSeconds,
    show Clock.latest = 2 ^ 63 - 1 from rfl]

/-! ## Tokens past their time -/

theorem validate_text_of_lt (hl : c.login ≠ "") (he : Clock.InRange c.expiresAt)
    (hn : c.expiresAt < now) :
    validate key now (text key c) = .error (.expiredToken c.expiresAt) := by
  have ht : Text.trim (text key c).toList =
      sealed key (payload (Text.utf8 c.login) c.expiresAt) := by
    rw [text, String.toList_ofList, trim_sealed]
  have hname : Text.utf8 c.login ≠ [] := fun h => hl (Text.utf8_eq_nil_iff.1 h)
  rw [validate_of_sealed hname he ht, if_pos hn]

/-! ## Lifetime -/

/-- **How long a token holds.**  Every login but the empty one is given a token, whatever length is
    asked for and whatever the clock shows.  The token expires after this length, as exactly as the
    clock can show it and never before the moment at which it was issued.  It is taken up with this
    login and this expiry at every reading up to the expiry, and is too old at every later one. -/
theorem lifetime_of_issue (key : Key) {login : String} (hl : login ≠ "") (ttl : Nat) {now : Int}
    (hn : Clock.InRange now) :
    ∃ token e, issue key now login ttl = .ok token ∧
      e = min (2 ^ 63 - 1) (now + min (1000 * (ttl : Int)) (2 ^ 63 - 1)) ∧ now ≤ e ∧
      (∀ later ≤ e, validate key later token = .ok ⟨login, e⟩) ∧
      ∀ later > e, validate key later token = .error (.expiredToken e) := by
  refine ⟨_, _, issue_eq_ok_iff.2 ⟨hl, rfl⟩, expiry_eq hn, le_expiry hn, ?_, ?_⟩
  · intro later h
    exact validate_text (c := ⟨login, expiry now ttl⟩) hl expiry_inRange h
  · intro later h
    exact validate_text_of_lt (c := ⟨login, expiry now ttl⟩) hl expiry_inRange h

/-- The greatest length, counted from the earliest reading: the length is cut down, the sum is
    not. -/
theorem lifetime_of_issue_earliest :
    ∃ token, issue [] Clock.earliest "ann" (2 ^ 64 - 1) = .ok token ∧
      validate [] (-1) token = .ok ⟨"ann", -1⟩ ∧
      validate [] 0 token = .error (.expiredToken (-1)) := by
  obtain ⟨token, e, hi, he, -, hok, hold⟩ :=
    @lifetime_of_issue [] "ann" (by decide) (2 ^ 64 - 1) Clock.earliest (by decide)
  obtain rfl : e = -1 := he.trans (by decide)
  exact ⟨token, hi, hok (-1) (by decide), hold 0 (by decide)⟩

end PlatformCore.Session.Token
