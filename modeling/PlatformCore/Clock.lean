/-
  Time of the platform, in whole milliseconds since the epoch.

  A reading is an integer between `Clock.earliest` and `Clock.latest`, the bounds of a
  64-bit signed word.  Sums and differences of readings stop at the bound they would
  cross (`addCapped`, `subCapped`), so a deadline never falls before the reading it is
  counted from.  Only moving a clock by hand goes round (`wrap`).

  * `millisOfSeconds s` is the length of `s` seconds, at most `latest`;
  * `Clock.advance` and `Clock.set` move a clock that is driven by hand;
  * `le_addCapped` and `addCapped_eq_min`: adding a length of at least zero gives no
    earlier reading, and only the upper bound can be met.
-/

namespace PlatformCore

/-! ## Readings and lengths -/

def Clock.earliest : Int := -9223372036854775808

/-- The latest reading of a clock, and the greatest length of time. -/
def Clock.latest : Int := 9223372036854775807

def Clock.InRange (t : Int) : Prop := Clock.earliest ≤ t ∧ t ≤ Clock.latest

instance (t : Int) : Decidable (Clock.InRange t) :=
  inferInstanceAs (Decidable (Clock.earliest ≤ t ∧ t ≤ Clock.latest))

def Clock.clamp (t : Int) : Int := max Clock.earliest (min Clock.latest t)

/-- The sum of two readings, stopped at the bound it would cross. -/
def addCapped (a b : Int) : Int := Clock.clamp (a + b)

/-- The difference of two readings, stopped at the bound it would cross. -/
def subCapped (a b : Int) : Int := Clock.clamp (a - b)

/-- The length of `s` seconds in milliseconds, at most `Clock.latest`. -/
def millisOfSeconds (s : Nat) : Int := min (1000 * (s : Int)) Clock.latest

theorem millisOfSeconds_nonneg (s : Nat) : 0 ≤ millisOfSeconds s := by
  simp only [millisOfSeconds, Clock.latest]; omega

theorem millisOfSeconds_le (s : Nat) : millisOfSeconds s ≤ Clock.latest := by
  simp only [millisOfSeconds]; omega

theorem addCapped_inRange (a b : Int) : Clock.InRange (addCapped a b) := by
  simp only [Clock.InRange, addCapped, Clock.clamp, Clock.earliest, Clock.latest]; omega

theorem addCapped_eq_min {a b : Int} (ha : Clock.InRange a) (hb : 0 ≤ b) :
    addCapped a b = min Clock.latest (a + b) := by
  obtain ⟨h₁, h₂⟩ := ha
  simp only [addCapped, Clock.clamp, Clock.earliest, Clock.latest] at *; omega

theorem le_addCapped {a b : Int} (ha : Clock.InRange a) (hb : 0 ≤ b) : a ≤ addCapped a b := by
  obtain ⟨h₁, h₂⟩ := ha
  simp only [addCapped, Clock.clamp, Clock.earliest, Clock.latest] at *; omega

theorem subCapped_lt_iff {t u b : Int} (h₁ : 0 ≤ b) (h₂ : b ≤ Clock.latest) :
    subCapped t u < b ↔ t - u < b := by
  simp only [subCapped, Clock.clamp, Clock.earliest, Clock.latest] at *; omega

theorem millisOfSeconds_pos {s : Nat} (h : 0 < s) : 0 < millisOfSeconds s := by
  simp only [millisOfSeconds, Clock.latest]; omega

/-! ## A clock driven by hand -/

/-- A clock that shows what it was last given. -/
structure Clock where
  now : Int
deriving DecidableEq, Repr

namespace Clock

def set (_ : Clock) (t : Int) : Clock := ⟨t⟩

/-- A span of whole seconds and nanoseconds in milliseconds, at most `latest`. -/
def spanMillis (secs nanos : Nat) : Int :=
  min (1000 * (secs : Int) + (nanos / 1000000 : Nat)) latest

def wrap (t : Int) : Int := t.bmod 18446744073709551616

/-- Moves the clock on by a number of milliseconds.  Past the latest reading it goes on
    from the earliest. -/
def advance (c : Clock) (millis : Int) : Clock := ⟨wrap (c.now + millis)⟩

theorem wrap_inRange (t : Int) : InRange (wrap t) := by
  have h₁ := Int.le_bmod (x := t) (m := 18446744073709551616) (by decide)
  have h₂ := Int.bmod_lt (x := t) (m := 18446744073709551616) (by decide)
  simp only [InRange, wrap, earliest, latest]; omega

end Clock

end PlatformCore
