/-
  Blanks: the characters with the Unicode property `White_Space`, and text without them at
  its ends.

  * `isBlank` is the property; the soft hyphen, the zero-width space, the Mongolian vowel
    separator and the byte order mark do not have it;
  * `trim` drops the blanks at both ends of a list of characters; a list that neither starts
    nor ends with one is left as it is (`trim_eq_self`).
-/

namespace PlatformCore.Text

def isBlank (c : Char) : Bool :=
  let n := c.toNat
  (0x9 ≤ n && n ≤ 0xd) || n == 0x20 || n == 0x85 || n == 0xa0 || n == 0x1680 ||
    (0x2000 ≤ n && n ≤ 0x200a) || n == 0x2028 || n == 0x2029 || n == 0x202f ||
    n == 0x205f || n == 0x3000

theorem isBlank_of_visible {c : Char} (h : 33 ≤ c.toNat ∧ c.toNat < 127) : isBlank c = false := by
  simp only [isBlank, Bool.or_eq_false_iff, Bool.and_eq_false_iff, beq_eq_false_iff_ne,
    decide_eq_false_iff_not]
  omega

def trimEnd (l : List Char) : List Char := (l.reverse.dropWhile isBlank).reverse

def trim (l : List Char) : List Char := trimEnd (l.dropWhile isBlank)

def trimmed (s : String) : String := String.ofList (trim s.toList)

variable {l : List Char} {c : Char}

theorem dropWhile_isBlank_eq_self (h : ∀ c, l.head? = some c → isBlank c = false) :
    l.dropWhile isBlank = l := by
  cases l with
  | nil => rfl
  | cons a l => simp [h a rfl]

theorem trimEnd_eq_self (h : ∀ c, l.getLast? = some c → isBlank c = false) :
    trimEnd l = l := by
  rw [trimEnd, dropWhile_isBlank_eq_self, List.reverse_reverse]
  intro c hc
  exact h c (by rwa [List.head?_reverse] at hc)

theorem trim_eq_self (h₁ : ∀ c, l.head? = some c → isBlank c = false)
    (h₂ : ∀ c, l.getLast? = some c → isBlank c = false) : trim l = l := by
  rw [trim, dropWhile_isBlank_eq_self h₁, trimEnd_eq_self h₂]

theorem trim_cons_of_isBlank (h : isBlank c = true) : trim (c :: l) = trim l := by
  simp [trim, h]

theorem trimEnd_append_cons {m : List Char} (h : isBlank c = false) :
    trimEnd (l ++ c :: m) = l ++ c :: trimEnd m := by
  have hr : (l ++ c :: m).reverse = m.reverse ++ c :: l.reverse := by simp
  rw [trimEnd, hr, List.dropWhile_append]
  split
  · next hm =>
    rw [trimEnd, List.isEmpty_iff.1 hm]
    simp [h]
  · simp [trimEnd]

theorem trimEnd_append_blanks (l : List Char) :
    ∃ t, l = trimEnd l ++ t ∧ ∀ c ∈ t, isBlank c = true := by
  refine ⟨(l.reverse.takeWhile isBlank).reverse, ?_, ?_⟩
  · rw [trimEnd, ← List.reverse_append, List.takeWhile_append_dropWhile, List.reverse_reverse]
  · intro c hc
    exact List.all_eq_true.1 List.all_takeWhile c (List.mem_reverse.1 hc)

end PlatformCore.Text
