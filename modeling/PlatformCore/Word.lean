/-
  Signed 64-bit words as eight bytes, the most significant first.

  * `Word.bytes` writes a word and `Word.ofBytes` reads one;
  * `ofBytes_bytes` and `bytes_ofBytes`: each undoes the other, for words in range and for
    lists of eight bytes.
-/
import PlatformCore.Clock

namespace PlatformCore.Word

def natBytes : (k : Nat) → Nat → List UInt8
  | 0, _ => []
  | k + 1, n => natBytes k (n / 256) ++ [UInt8.ofNat n]

def ofNatBytes (l : List UInt8) : Nat := l.foldl (fun n b => n * 256 + b.toNat) 0

def span : (k : Nat) → Nat
  | 0 => 1
  | k + 1 => span k * 256

def bytes (t : Int) : List UInt8 := natBytes 8 (t % 18446744073709551616).toNat

def ofBytes (l : List UInt8) : Int := Clock.wrap (ofNatBytes l)

@[simp] theorem length_natBytes (k n : Nat) : (natBytes k n).length = k := by
  induction k generalizing n with
  | zero => rfl
  | succ k ih => simp [natBytes, ih]

@[simp] theorem length_bytes (t : Int) : (bytes t).length = 8 := length_natBytes _ _

theorem ofNatBytes_concat (l : List UInt8) (b : UInt8) :
    ofNatBytes (l ++ [b]) = ofNatBytes l * 256 + b.toNat := by
  simp [ofNatBytes]

theorem ofNatBytes_natBytes {k n : Nat} (h : n < span k) : ofNatBytes (natBytes k n) = n := by
  induction k generalizing n with
  | zero => simp only [span, Nat.lt_one_iff] at h; subst h; rfl
  | succ k ih =>
    rw [natBytes, ofNatBytes_concat, ih (by rw [span] at h; omega), UInt8.toNat_ofNat']
    omega

theorem natBytes_ofNatBytes (l : List UInt8) : natBytes l.length (ofNatBytes l) = l := by
  generalize hn : l.length = n
  induction n generalizing l with
  | zero => rw [List.length_eq_zero_iff.1 hn]; rfl
  | succ n ih =>
    obtain ⟨a, b, rfl⟩ : ∃ a b, l = a ++ [b] :=
      ⟨l.dropLast, l.getLast (by rintro rfl; simp at hn), (List.dropLast_concat_getLast _).symm⟩
    have ha : a.length = n := by simpa using hn
    have hb := b.toNat_lt
    rw [natBytes, ofNatBytes_concat, show (ofNatBytes a * 256 + b.toNat) / 256 = ofNatBytes a by
      omega, ih a ha]
    congr 2
    rw [← UInt8.toNat_inj, UInt8.toNat_ofNat']
    omega

theorem ofNatBytes_lt (l : List UInt8) : ofNatBytes l < span l.length := by
  generalize hn : l.length = n
  induction n generalizing l with
  | zero => rw [List.length_eq_zero_iff.1 hn]; decide
  | succ n ih =>
    obtain ⟨a, b, rfl⟩ : ∃ a b, l = a ++ [b] :=
      ⟨l.dropLast, l.getLast (by rintro rfl; simp at hn), (List.dropLast_concat_getLast _).symm⟩
    have ha := ih a (by simpa using hn)
    have hb := b.toNat_lt
    rw [ofNatBytes_concat, span]; omega

theorem ofBytes_bytes {t : Int} (h : Clock.InRange t) : ofBytes (bytes t) = t := by
  obtain ⟨h₁, h₂⟩ := h
  simp only [Clock.earliest, Clock.latest] at h₁ h₂
  have hn : (t % 18446744073709551616).toNat < span 8 := by
    simp only [span]; omega
  rw [bytes, ofBytes, ofNatBytes_natBytes hn, Int.toNat_of_nonneg (by omega), Clock.wrap,
    show (18446744073709551616 : Int) = ((18446744073709551616 : Nat) : Int) from rfl,
    Int.emod_bmod]
  exact Int.bmod_eq_of_le (by omega) (by omega)

theorem bytes_ofBytes {l : List UInt8} (h : l.length = 8) : bytes (ofBytes l) = l := by
  have hl := ofNatBytes_lt l
  rw [h] at hl
  simp only [span] at hl
  rw [bytes, ofBytes, Clock.wrap,
    show (18446744073709551616 : Int) = ((18446744073709551616 : Nat) : Int) from rfl,
    Int.bmod_emod, Int.emod_eq_of_lt (by omega) (by omega), Int.toNat_natCast, ← h]
  exact natBytes_ofNatBytes l

theorem ofBytes_inRange (l : List UInt8) : Clock.InRange (ofBytes l) := Clock.wrap_inRange _

end PlatformCore.Word
