/-
  Texts as header values.

  A value is bytes, and two tests stand at its ends: one when it is sent, another when it is read.
  Both treat all that is outside ASCII alike, so they may as well be made on the characters of the
  text.  The second is the stricter one: a value with a character outside ASCII is sent, but not
  read.

  * `Sendable` and `Readable` are the two tests, on the number of a byte or a character;
  * `ofText?_eq_some_iff`, `text?_utf8` and `text?_eq_some_iff`: sending and reading in these terms.
-/
import PlatformCore.Http.Message

namespace PlatformCore.Http

/-- May be sent: a tab, or anything but a control character of ASCII. -/
def Sendable (n : Nat) : Prop := n = 9 ∨ (32 ≤ n ∧ n ≠ 127)

/-- Can be read: a tab, a space, or visible ASCII. -/
def Readable (n : Nat) : Prop := n = 9 ∨ (32 ≤ n ∧ n < 127)

/-- Is printed: a space or visible ASCII. -/
def Printable (n : Nat) : Prop := 32 ≤ n ∧ n < 127

instance (n : Nat) : Decidable (Sendable n) := inferInstanceAs (Decidable (_ ∨ _))

instance (n : Nat) : Decidable (Readable n) := inferInstanceAs (Decidable (_ ∨ _))

instance (n : Nat) : Decidable (Printable n) := inferInstanceAs (Decidable (_ ∧ _))

variable {n : Nat} {b : UInt8} {s : String} {v : HeaderValue}

theorem Printable.readable (h : Printable n) : Readable n := .inr h

theorem Readable.sendable (h : Readable n) : Sendable n := by
  simp only [Readable, Sendable] at *
  omega

theorem sendable_of_le (h : 128 ≤ n) : Sendable n ↔ Sendable 128 := by
  simp only [Sendable]
  omega

theorem readable_of_le (h : 128 ≤ n) : Readable n ↔ Readable 128 := by
  simp only [Readable]
  omega

namespace HeaderValue

theorem isLegalByte_iff : isLegalByte b = true ↔ Sendable b.toNat := by
  simp [isLegalByte, Sendable, UInt8.le_iff_toNat_le, ← UInt8.toNat_inj]

theorem isReadableByte_iff : isReadableByte b = true ↔ Readable b.toNat := by
  simp [isReadableByte, Readable, UInt8.le_iff_toNat_le, UInt8.lt_iff_toNat_lt, ← UInt8.toNat_inj]

theorem legal_utf8_iff : Legal ⟨Text.utf8 s⟩ ↔ Text.Every Sendable s := by
  simp only [Legal, isLegalByte_iff]
  exact Text.forall_utf8_iff fun _ => sendable_of_le

theorem all_isReadableByte_utf8_iff :
    (Text.utf8 s).all isReadableByte = true ↔ Text.Every Readable s := by
  simp only [List.all_eq_true, isReadableByte_iff]
  exact Text.forall_utf8_iff fun _ => readable_of_le

/-- A text can be sent exactly if each of its characters can, and it is sent as it is. -/
theorem ofText?_eq_some_iff :
    ofText? s = some v ↔ Text.Every Sendable s ∧ v = ⟨Text.utf8 s⟩ := by
  rw [← legal_utf8_iff, ofText?, ofBytes?]
  split <;> simp_all [eq_comm]

/-- A text that was sent is read as it is, if each of its characters can be read. -/
theorem text?_utf8 :
    text? ⟨Text.utf8 s⟩ = if Text.Every Readable s then some s else none := by
  simp only [text?, all_isReadableByte_utf8_iff, Text.ofUtf8?_utf8]

/-- The value is this text, and each of its characters can be read. -/
def Spells (v : HeaderValue) (s : String) : Prop := Text.Every Readable s ∧ v = ⟨Text.utf8 s⟩

theorem text?_eq_some_iff : v.text? = some s ↔ v.Spells s := by
  constructor
  · intro h
    have hv : v = ⟨Text.utf8 s⟩ := by
      rw [text?] at h
      split at h
      · exact congrArg HeaderValue.mk (Text.ofUtf8?_eq_some_iff.1 h)
      · cases h
    subst hv
    rw [text?_utf8] at h
    split at h
    · next hs => exact ⟨hs, rfl⟩
    · cases h
  · rintro ⟨hs, rfl⟩
    rw [text?_utf8, if_pos hs]

end HeaderValue

end PlatformCore.Http
