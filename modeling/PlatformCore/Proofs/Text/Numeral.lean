/-
  Numerals, given by their digits.

  * `Spells`: a text spells a number below a bound with decimal digits, one plus sign before them
    or none, and blanks around both; `numeral?_trim_eq_some_iff` says that these are the texts
    that are read, each as the number it spells;
  * `numeralValue_ten`: decimal digits have the value that the core library gives them.
-/
import PlatformCore.Text.Blank
import PlatformCore.Text.Numeral

namespace PlatformCore.Text

variable {bound n : Nat} {c : Char} {l ds : List Char} {s : String}

/-! ## Digits -/

theorem digitValue?_ten :
    digitValue? 10 c = if c.isDigit then some (c.toNat - '0'.toNat) else none := by
  have hd : c.isDigit = true ↔ 48 ≤ c.toNat ∧ c.toNat ≤ 57 := by
    simp only [Char.isDigit, Bool.and_eq_true, decide_eq_true_eq, UInt32.le_iff_toNat_le]
    rfl
  have h0 : '0'.toNat = 48 := rfl
  simp only [digitValue?, hd, h0]
  split <;> split <;> grind

theorem isDigitOf_ten : isDigitOf 10 c = c.isDigit := by
  rw [isDigitOf, digitValue?_ten]
  split <;> simp_all

theorem numeralValue_ten (h : ∀ c ∈ ds, c.isDigit = true) :
    numeralValue 10 ds = Nat.ofDigitChars 10 ds 0 := by
  rw [numeralValue, Nat.ofDigitChars_eq_foldl]
  -- the two folds take the same step at each digit
  have hfold : ∀ n, ds.foldl (fun n c => n * 10 + (digitValue? 10 c).getD 0) n =
      ds.foldl (fun n c => 10 * n + (c.toNat - '0'.toNat)) n := by
    induction ds with
    | nil => intro n; rfl
    | cons c ds ih =>
      intro n
      obtain ⟨hc, hds⟩ := List.forall_mem_cons.1 h
      rw [List.foldl_cons, List.foldl_cons, ih hds, digitValue?_ten, if_pos hc, Option.getD_some,
        Nat.mul_comm]
  exact hfold 0

theorem isBlank_of_isDigit (h : c.isDigit = true) : isBlank c = false := by
  refine isBlank_of_visible ?_
  simp only [Char.isDigit, Bool.and_eq_true, decide_eq_true_eq, UInt32.le_iff_toNat_le] at h
  change 48 ≤ c.toNat ∧ c.toNat ≤ 57 at h
  omega

/-! ## Numerals -/

/-- Decimal digits that spell a number below a bound. -/
structure Digits (bound : Nat) (ds : List Char) (n : Nat) : Prop where
  ne_nil : ds ≠ []
  isDigit : ∀ c ∈ ds, c.isDigit = true
  eq_value : n = Nat.ofDigitChars 10 ds 0
  lt_bound : n < bound

/-- A text of decimal digits that spell a number below a bound, with one plus sign before them or
    none, and with blanks around both. -/
def Spells (bound : Nat) (s : String) (n : Nat) : Prop :=
  ∃ left sign ds right, s.toList = left ++ (sign ++ ds) ++ right ∧
    (∀ c ∈ left ++ right, isBlank c = true) ∧ (sign = [] ∨ sign = ['+']) ∧ Digits bound ds n

theorem dropPlus_append (h : Digits bound ds n) {sign : List Char}
    (hs : sign = [] ∨ sign = ['+']) : dropPlus (sign ++ ds) = ds := by
  rcases hs with rfl | rfl
  · rcases ds with _ | ⟨c, ds⟩
    · rfl
    · have hc : c ≠ '+' := by
        rintro rfl
        exact absurd (h.isDigit _ List.mem_cons_self) (by decide)
      rw [List.nil_append, dropPlus]
      rintro _ ⟨⟩
      exact hc rfl
  · rfl

theorem exists_sign (l : List Char) :
    ∃ sign, l = sign ++ dropPlus l ∧ (sign = [] ∨ sign = ['+']) := by
  rw [dropPlus.eq_def]
  split
  · exact ⟨['+'], rfl, .inr rfl⟩
  · exact ⟨[], rfl, .inl rfl⟩

theorem numeral?_eq_some_iff : numeral? bound l = some n ↔ Digits bound (dropPlus l) n := by
  have hall : (dropPlus l).all (isDigitOf 10) = true ↔ ∀ c ∈ dropPlus l, c.isDigit = true := by
    simp only [List.all_eq_true, isDigitOf_ten]
  simp only [numeral?, hall]
  constructor
  · intro h
    split at h
    · next hd =>
      obtain ⟨hne, hdigit, hlt⟩ := hd
      rw [numeralValue_ten hdigit] at h hlt
      cases h
      exact ⟨hne, hdigit, rfl, hlt⟩
    · cases h
  · rintro ⟨hne, hdigit, rfl, hlt⟩
    rw [numeralValue_ten hdigit, if_pos ⟨hne, hdigit, hlt⟩]

/-! ## Blanks around them -/

/-- Blanks are taken off both ends of what neither starts nor ends with one. -/
theorem trim_append {left right : List Char} (hb : ∀ c ∈ left ++ right, isBlank c = true)
    (hne : l ≠ []) (hl : ∀ c ∈ l, isBlank c = false) : trim (left ++ l ++ right) = l := by
  obtain ⟨hleft, hright⟩ := List.forall_mem_append.1 hb
  have hstart : (l ++ right).dropWhile isBlank = l ++ right := by
    rcases l with _ | ⟨d, l⟩
    · exact absurd rfl hne
    · refine dropWhile_isBlank_eq_self fun c hc => ?_
      cases hc
      exact hl _ List.mem_cons_self
  have hend : trimEnd (l ++ right) = l := by
    rw [trimEnd, List.reverse_append, List.dropWhile_append_of_pos (by simpa using hright)]
    exact trimEnd_eq_self fun c hc => hl c (List.mem_of_getLast? hc)
  rw [trim, List.append_assoc, List.dropWhile_append_of_pos hleft, hstart, hend]

theorem exists_trim (l : List Char) :
    ∃ left right, l = left ++ trim l ++ right ∧ ∀ c ∈ left ++ right, isBlank c = true := by
  obtain ⟨right, hr, hright⟩ := trimEnd_append_blanks (l.dropWhile isBlank)
  refine ⟨l.takeWhile isBlank, right, ?_, ?_⟩
  · rw [List.append_assoc, trim, ← hr, List.takeWhile_append_dropWhile]
  · rw [List.forall_mem_append]
    exact ⟨List.all_eq_true.1 List.all_takeWhile, hright⟩

/-- **The texts that are read as numbers.** -/
theorem numeral?_trim_eq_some_iff :
    numeral? bound (trim s.toList) = some n ↔ Spells bound s n := by
  rw [numeral?_eq_some_iff]
  constructor
  · intro h
    obtain ⟨left, right, hs, hb⟩ := exists_trim s.toList
    obtain ⟨sign, ht, hsign⟩ := exists_sign (trim s.toList)
    refine ⟨left, sign, _, right, ?_, hb, hsign, h⟩
    rw [← ht]
    exact hs
  · rintro ⟨left, sign, ds, right, hs, hb, hsign, h⟩
    have hl : ∀ c ∈ sign ++ ds, isBlank c = false := by
      rw [List.forall_mem_append]
      refine ⟨?_, fun c hc => isBlank_of_isDigit (h.isDigit c hc)⟩
      rcases hsign with rfl | rfl
      · exact List.forall_mem_nil _
      · intro c hc
        rw [List.mem_singleton.1 hc]
        rfl
    rw [hs, trim_append hb (by simp [h.ne_nil]) hl, dropPlus_append h hsign]
    exact h

theorem Spells.unique {m : Nat} (hm : Spells bound s m) (hn : Spells bound s n) : m = n :=
  Option.some.inj ((numeral?_trim_eq_some_iff.2 hm).symm.trans (numeral?_trim_eq_some_iff.2 hn))

theorem Spells.lt_bound (h : Spells bound s n) : n < bound := by
  obtain ⟨_, _, _, _, -, -, -, hd⟩ := h
  exact hd.lt_bound

end PlatformCore.Text
