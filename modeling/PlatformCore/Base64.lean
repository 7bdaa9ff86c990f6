/-
  Base64: bytes as text over 64 symbols, with padding.

  Three bytes are written as four symbols of six bits each; one or two bytes at the end are
  written as two or three symbols and padded with `=` to four characters.  Only the text
  that `encode` writes is read: the padding is required, and bits that no byte uses are zero.

  * `toNat_of_mem_encode`: the range of the characters that are written;
  * `decode?_encode` and `eq_encode_of_decode?`: reading accepts exactly what writing produces,
    so that bytes have one text and a text at most one meaning.
-/

namespace PlatformCore.Base64

/-! ## Symbols -/

/-- The symbol of a six-bit value: capital letters, small letters, digits, `+` and `/`. -/
def symbol (i : Nat) : Char :=
  Char.ofNat (if i < 26 then i + 65 else if i < 52 then i + 71 else if i < 62 then i - 4
    else if i = 62 then 43 else 47)

def value? (c : Char) : Option Nat :=
  let n := c.toNat
  if 65 ≤ n ∧ n ≤ 90 then some (n - 65)
  else if 97 ≤ n ∧ n ≤ 122 then some (n - 71)
  else if 48 ≤ n ∧ n ≤ 57 then some (n + 4)
  else if n = 43 then some 62
  else if n = 47 then some 63
  else none

set_option maxRecDepth 4000 in
theorem value?_symbol : ∀ i < 64, value? (symbol i) = some i := by decide

theorem value?_lt {c : Char} {i : Nat} (h : value? c = some i) : i < 64 := by
  simp only [value?] at h
  split at h
  · cases h; omega
  split at h
  · cases h; omega
  split at h
  · cases h; omega
  split at h
  · cases h; omega
  split at h
  · cases h; omega
  · cases h

set_option maxRecDepth 4000 in
theorem symbol_toNat : ∀ i < 64, (symbol i).toNat =
    if i < 26 then i + 65 else if i < 52 then i + 71 else if i < 62 then i - 4
    else if i = 62 then 43 else 47 := by decide

theorem symbol_of_value? {c : Char} {i : Nat} (h : value? c = some i) : symbol i = c := by
  have hi := symbol_toNat i (value?_lt h)
  refine Char.toNat_inj.1 (hi.trans ?_)
  simp only [value?] at h
  split at h
  · cases h
    have : c.toNat - 65 < 26 := by omega
    simp only [this, if_true]; omega
  split at h
  · cases h
    have : ¬ c.toNat - 71 < 26 := by omega
    have : c.toNat - 71 < 52 := by omega
    simp only [*, if_true, if_false]; omega
  split at h
  · cases h
    have : ¬ c.toNat + 4 < 26 := by omega
    have : ¬ c.toNat + 4 < 52 := by omega
    have : c.toNat + 4 < 62 := by omega
    simp only [*, if_true, if_false]; omega
  split at h
  · cases h; simp [*]
  split at h
  · cases h; simp [*]
  · cases h

/-! ## Writing -/

/-- The text of a list of bytes. -/
def encode : List UInt8 → List Char
  | a :: b :: c :: rest =>
    symbol (a.toNat / 4) :: symbol (a.toNat % 4 * 16 + b.toNat / 16) ::
      symbol (b.toNat % 16 * 4 + c.toNat / 64) :: symbol (c.toNat % 64) :: encode rest
  | [a, b] =>
    [symbol (a.toNat / 4), symbol (a.toNat % 4 * 16 + b.toNat / 16),
      symbol (b.toNat % 16 * 4), '=']
  | [a] => [symbol (a.toNat / 4), symbol (a.toNat % 4 * 16), '=', '=']
  | [] => []

theorem of_mem_encode {l : List UInt8} {c : Char} (h : c ∈ encode l) :
    c = '=' ∨ ∃ i < 64, symbol i = c := by
  fun_induction encode l with
  | case1 a b d rest ih =>
    have := a.toNat_lt; have := b.toNat_lt; have := d.toNat_lt
    simp only [List.mem_cons] at h
    rcases h with rfl | rfl | rfl | rfl | h
    · exact .inr ⟨_, by omega, rfl⟩
    · exact .inr ⟨_, by omega, rfl⟩
    · exact .inr ⟨_, by omega, rfl⟩
    · exact .inr ⟨_, by omega, rfl⟩
    · exact ih h
  | case2 a b =>
    have := a.toNat_lt; have := b.toNat_lt
    simp only [List.mem_cons, List.not_mem_nil, or_false] at h
    rcases h with rfl | rfl | rfl | rfl
    · exact .inr ⟨_, by omega, rfl⟩
    · exact .inr ⟨_, by omega, rfl⟩
    · exact .inr ⟨_, by omega, rfl⟩
    · exact .inl rfl
  | case3 a =>
    have := a.toNat_lt
    simp only [List.mem_cons, List.not_mem_nil, or_false] at h
    rcases h with rfl | rfl | rfl | rfl
    · exact .inr ⟨_, by omega, rfl⟩
    · exact .inr ⟨_, by omega, rfl⟩
    · exact .inl rfl
    · exact .inl rfl
  | case4 => cases h

theorem toNat_of_mem_encode {l : List UInt8} {c : Char} (h : c ∈ encode l) :
    43 ≤ c.toNat ∧ c.toNat ≤ 122 ∧ c.toNat ≠ 59 := by
  rcases of_mem_encode h with rfl | ⟨i, hi, rfl⟩
  · decide
  · rw [symbol_toNat i hi]
    split
    · omega
    split
    · omega
    split
    · omega
    split <;> omega

/-! ## Reading -/

def oneByte? (i j : Nat) : Option (List UInt8) :=
  if j % 16 = 0 then some [UInt8.ofNat (i * 4 + j / 16)] else none

def twoBytes? (i j k : Nat) : Option (List UInt8) :=
  if k % 4 = 0 then
    some [UInt8.ofNat (i * 4 + j / 16), UInt8.ofNat (j % 16 * 16 + k / 4)]
  else none

def threeBytes (i j k l : Nat) : List UInt8 :=
  [UInt8.ofNat (i * 4 + j / 16), UInt8.ofNat (j % 16 * 16 + k / 4),
    UInt8.ofNat (k % 4 * 64 + l)]

/-- The bytes that a text stands for. -/
def decode? : List Char → Option (List UInt8)
  | [] => some []
  | w :: x :: y :: z :: rest =>
    match value? w, value? x with
    | some i, some j =>
      match value? y, value? z with
      | some k, some l => (decode? rest).map (threeBytes i j k l ++ ·)
      | some k, none => if z = '=' ∧ rest = [] then twoBytes? i j k else none
      | none, none => if y = '=' ∧ z = '=' ∧ rest = [] then oneByte? i j else none
      | none, some _ => none
    | _, _ => none
  | _ => none

/-! ## Reading and writing -/

theorem value?_pad : value? '=' = none := by decide

theorem decode?_encode (b : List UInt8) : decode? (encode b) = some b := by
  fun_induction encode b with
  | case1 a b c rest ih =>
    have := a.toNat_lt; have := b.toNat_lt; have := c.toNat_lt
    simp only [decode?, value?_symbol _ (show a.toNat / 4 < 64 by omega),
      value?_symbol _ (show a.toNat % 4 * 16 + b.toNat / 16 < 64 by omega),
      value?_symbol _ (show b.toNat % 16 * 4 + c.toNat / 64 < 64 by omega),
      value?_symbol _ (show c.toNat % 64 < 64 by omega), ih, Option.map_some, threeBytes,
      List.cons_append, List.nil_append, Option.some.injEq, List.cons.injEq, and_true]
    refine ⟨?_, ?_, ?_⟩ <;> rw [← UInt8.toNat_inj, UInt8.toNat_ofNat'] <;> omega
  | case2 a b =>
    have := a.toNat_lt; have := b.toNat_lt
    simp only [decode?, value?_symbol _ (show a.toNat / 4 < 64 by omega),
      value?_symbol _ (show a.toNat % 4 * 16 + b.toNat / 16 < 64 by omega),
      value?_symbol _ (show b.toNat % 16 * 4 < 64 by omega), value?_pad, and_self, if_true,
      twoBytes?, show b.toNat % 16 * 4 % 4 = 0 by omega, Option.some.injEq, List.cons.injEq,
      and_true]
    refine ⟨?_, ?_⟩ <;> rw [← UInt8.toNat_inj, UInt8.toNat_ofNat'] <;> omega
  | case3 a =>
    have := a.toNat_lt
    simp only [decode?, value?_symbol _ (show a.toNat / 4 < 64 by omega),
      value?_symbol _ (show a.toNat % 4 * 16 < 64 by omega), value?_pad, and_self, if_true,
      oneByte?, show a.toNat % 4 * 16 % 16 = 0 by omega, Option.some.injEq, List.cons.injEq,
      and_true]
    rw [← UInt8.toNat_inj, UInt8.toNat_ofNat']; omega
  | case4 => rfl

theorem eq_encode_of_decode? {s : List Char} {b : List UInt8} (h : decode? s = some b) :
    s = encode b := by
  fun_induction decode? s generalizing b with
  | case1 => cases h; rfl
  | case2 w x y z rest i j hi hj k l hk hl ih =>
    obtain ⟨t, ht, rfl⟩ := Option.map_eq_some_iff.1 h
    have := value?_lt hi; have := value?_lt hj; have := value?_lt hk; have := value?_lt hl
    rw [← symbol_of_value? hi, ← symbol_of_value? hj, ← symbol_of_value? hk,
      ← symbol_of_value? hl, ih ht]
    simp only [threeBytes, List.cons_append, List.nil_append, encode, UInt8.toNat_ofNat',
      List.cons.injEq, and_true]
    refine ⟨?_, ?_, ?_, ?_⟩ <;> congr 1 <;> omega
  | case3 w x y z rest i j hi hj k hz hk hp =>
    obtain ⟨rfl, rfl⟩ := hp
    simp only [twoBytes?] at h
    split at h
    · cases h
      have := value?_lt hi; have := value?_lt hj; have := value?_lt hk
      rw [← symbol_of_value? hi, ← symbol_of_value? hj, ← symbol_of_value? hk]
      simp only [encode, UInt8.toNat_ofNat', List.cons.injEq, and_true]
      refine ⟨?_, ?_, ?_⟩ <;> congr 1 <;> omega
    · cases h
  | case4 => cases h
  | case5 w x y z rest i j hi hj hy hz hp =>
    obtain ⟨rfl, rfl, rfl⟩ := hp
    simp only [oneByte?] at h
    split at h
    · cases h
      have := value?_lt hi; have := value?_lt hj
      rw [← symbol_of_value? hi, ← symbol_of_value? hj]
      simp only [encode, UInt8.toNat_ofNat', List.cons.injEq, and_true]
      refine ⟨?_, ?_⟩ <;> congr 1 <;> omega
    · cases h
  | case6 => cases h
  | case7 => cases h
  | case8 => cases h
  | case9 => cases h

end PlatformCore.Base64
