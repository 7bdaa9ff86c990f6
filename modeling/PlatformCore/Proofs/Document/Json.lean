/-
  JSON that is written, read again.

  Each lemma says what a reader makes of written text with any other text behind it, so that they
  can be put one after another.

  * `string?_flatMap_escaped`: a string, whatever its characters;
  * `number?_integer`: a whole number, if what follows does not continue it;
  * `Spells` is a text that is read as a value wherever a value can end, `value?_table` an object
    of such texts.
-/
import Mathlib.Tactic.SplitIfs
import PlatformCore.Document.Json
import PlatformCore.Proofs.Text.Numeral

namespace PlatformCore.Json

variable {c : Char} {l rest s : List Char} {n : Nat}

/-! ## Strings -/

theorem digitValue?_hexDigit : ∀ n < 16, Text.digitValue? 16 (hexDigit n) = some n := by decide

theorem unit?_of_lt (h : n < 32) :
    unit? '0' '0' (hexDigit (n / 16)) (hexDigit (n % 16)) = some n := by
  have h0 : Text.digitValue? 16 '0' = some 0 := rfl
  simp only [unit?, h0, digitValue?_hexDigit (n / 16) (by omega),
    digitValue?_hexDigit (n % 16) (by omega), Option.bind_eq_bind, Option.bind_some, pure]
  congr 1
  omega

/-- The part of a string that an escaped character is read as. -/
def pieceOf (c : Char) : Piece :=
  if c.toNat < 0x20 ∧ c ∉ ['\x08', '\x0c', '\n', '\r', '\t'] then .unit c.toNat else .char c

theorem pieces?_of_escape? {e : Char} (he : e ≠ 'u') (h : escape? e = some c) :
    pieces? ('\\' :: e :: s) = (pieces? s).map fun r => (.char c :: r.1, r.2) := by
  rw [pieces?]
  · rcases pieces? s with _ | r <;> simp [h]
  · rintro _ _ _ _ _ ⟨⟩
    exact absurd rfl he

theorem pieces?_of_unit? {a b c d : Char} (h : unit? a b c d = some n) :
    pieces? ('\\' :: 'u' :: a :: b :: c :: d :: s) =
      (pieces? s).map fun r => (.unit n :: r.1, r.2) := by
  rw [pieces?]
  rcases pieces? s with _ | r <;> simp [h]

theorem pieces?_of_plain (hq : c ≠ '"') (hb : c ≠ '\\') (h : ¬ c.toNat < 0x20) :
    pieces? (c :: s) = (pieces? s).map fun r => (.char c :: r.1, r.2) := by
  rw [pieces?]
  · rcases pieces? s with _ | r <;> simp [h]
  · exact hq
  · rintro _ _ _ _ _ rfl
    exact absurd rfl hb
  · rintro _ _ rfl
    exact absurd rfl hb

theorem pieces?_escaped :
    pieces? (escaped c ++ s) = (pieces? s).map fun r => (pieceOf c :: r.1, r.2) := by
  rw [escaped]
  split_ifs with hq hb h8 hc hn hr ht h
  · subst hq
    exact pieces?_of_escape? (by decide) rfl
  · subst hb
    exact pieces?_of_escape? (by decide) rfl
  · subst h8
    exact pieces?_of_escape? (by decide) rfl
  · subst hc
    exact pieces?_of_escape? (by decide) rfl
  · subst hn
    exact pieces?_of_escape? (by decide) rfl
  · subst hr
    exact pieces?_of_escape? (by decide) rfl
  · subst ht
    exact pieces?_of_escape? (by decide) rfl
  · have hp : pieceOf c = .unit c.toNat := by
      rw [pieceOf, if_pos]
      simp [h, h8, hc, hn, hr, ht]
    rw [hp]
    exact pieces?_of_unit? (unit?_of_lt h)
  · have hp : pieceOf c = .char c := by
      rw [pieceOf, if_neg]
      exact fun hlt => h hlt.1
    rw [hp]
    exact pieces?_of_plain hq hb h

theorem assemble?_pieceOf {ps : List Piece} :
    assemble? (pieceOf c :: ps) = (assemble? ps).map (c :: ·) := by
  rw [pieceOf]
  split
  · next h =>
    have hh : isHigh c.toNat = false := by grind [isHigh]
    have hl : isLow c.toNat = false := by grind [isLow]
    rw [assemble?.eq_def]
    simp [hh, hl]
  · rfl

theorem pieces?_flatMap_escaped : pieces? (l.flatMap escaped ++ '"' :: rest) =
    some (l.map pieceOf, rest) := by
  induction l with
  | nil => rfl
  | cons c l ih => rw [List.flatMap_cons, List.append_assoc, pieces?_escaped, ih]; rfl

theorem assemble?_map_pieceOf : assemble? (l.map pieceOf) = some l := by
  induction l with
  | nil => rfl
  | cons c l ih => rw [List.map_cons, assemble?_pieceOf, ih]; rfl

/-- **A string is read as it was written.** -/
theorem string?_flatMap_escaped {s : String} :
    string? (s.toList.flatMap escaped ++ '"' :: rest) = some (some s, rest) := by
  rw [string?, pieces?_flatMap_escaped, Option.bind_eq_bind, Option.bind_some]
  simp [assemble?_map_pieceOf]

/-! ## Numbers -/

/-- The rest of a text at which a value can end. -/
def Ends (rest : List Char) : Prop := ∀ c, rest.head? = some c → c = ',' ∨ c = ']' ∨ c = '\x7d'

theorem Ends.head_ne (h : Ends (c :: rest)) : c ≠ '.' ∧ c ≠ 'e' ∧ c ≠ 'E' ∧ c.isDigit = false := by
  rcases h c rfl with rfl | rfl | rfl <;> decide

theorem digits_append {ds : List Char} (h : ∀ c ∈ ds, c.isDigit = true) (hr : Ends rest) :
    digits (ds ++ rest) = (ds, rest) := by
  have hd : ∀ c ∈ ds, Text.isDigitOf 10 c = true := fun c hc => Text.isDigitOf_ten.trans (h c hc)
  rw [digits, List.takeWhile_append_of_pos hd, List.dropWhile_append_of_pos hd]
  rcases rest with _ | ⟨c, rest⟩
  · simp
  · have hc : Text.isDigitOf 10 c = false := Text.isDigitOf_ten.trans hr.head_ne.2.2.2
    simp [hc]

theorem head?_toDigits (h : 10 ≤ n) : (Nat.toDigits 10 n).head? ≠ some '0' := by
  induction n using Nat.strongRecOn with
  | ind n ih =>
    rw [Nat.toDigits_of_base_le (by decide) h]
    by_cases hn : n / 10 < 10
    · rw [Nat.toDigits_of_lt_base hn]
      simp
      omega
    · have := ih (n / 10) (by omega) (by omega)
      rcases hd : Nat.toDigits 10 (n / 10) with _ | ⟨c, ds⟩
      · exact absurd hd Nat.toDigits_ne_nil
      · simpa [hd] using this

theorem guard_eq_some {p : Prop} [Decidable p] (h : p) : (guard p : Option Unit) = some () :=
  if_pos h

theorem unsigned?_toDigits {isNegative : Bool} (h : isNegative = true → n ≠ 0) (hr : Ends rest) :
    unsigned? isNegative (Nat.toDigits 10 n ++ rest) =
      some (.integer (if isNegative then -(n : Int) else n), rest) := by
  have hd : ∀ c ∈ Nat.toDigits 10 n, c.isDigit = true := fun c hc =>
    Nat.isDigit_of_mem_toDigits (by decide) (by decide) hc
  have hv : Text.numeralValue 10 (Nat.toDigits 10 n) = n := by
    rw [Text.numeralValue_ten hd, Nat.ofDigitChars_ten_toDigits]
  have hz : (Nat.toDigits 10 n).head? ≠ some '0' ∨ (Nat.toDigits 10 n).length = 1 := by
    by_cases hn : n < 10
    · exact .inr (by rw [Nat.toDigits_of_lt_base hn]; rfl)
    · exact .inl (head?_toDigits (by omega))
  have hfrac : dropFraction? rest = some (false, rest) := by
    rw [dropFraction?]
    rintro _ rfl
    exact hr.head_ne.1 rfl
  have hexp : dropExponent? rest = some (false, rest) := by
    rw [dropExponent?]
    · rintro _ rfl
      exact hr.head_ne.2.1 rfl
    · rintro _ rfl
      exact hr.head_ne.2.2.1 rfl
  have hneg : (isNegative && n == 0) = false := by
    rcases isNegative with _ | _
    · rfl
    · simpa using h rfl
  rw [unsigned?, digits_append hd hr]
  dsimp only
  rw [guard_eq_some ⟨Nat.toDigits_ne_nil, hz⟩]
  simp only [Option.bind_eq_bind, Option.bind_some, hfrac, hexp, hv, hneg]
  rfl

theorem exists_integer (n : Int) :
    ∃ c l, integer n = c :: l ∧ (c = '-' ∨ c.isDigit = true) := by
  rw [integer, Int.toString_eq_repr, Int.repr_eq_if]
  split
  · rcases hd : Nat.toDigits 10 n.toNat with _ | ⟨c, l⟩
    · exact absurd hd Nat.toDigits_ne_nil
    · refine ⟨c, l, by rw [Nat.toList_repr, hd], .inr ?_⟩
      exact Nat.isDigit_of_mem_toDigits (by decide) (by decide) (hd ▸ List.mem_cons_self)
  · exact ⟨'-', _, String.toList_append, .inl rfl⟩

/-- **A whole number is read as it was written.** -/
theorem number?_integer {n : Int} (hr : Ends rest) :
    number? (integer n ++ rest) = some (.integer n, rest) := by
  rw [integer, Int.toString_eq_repr, Int.repr_eq_if]
  split
  · next h =>
    rw [Nat.toList_repr, number?]
    · rw [unsigned?_toDigits (by simp) hr]
      simp [Int.toNat_of_nonneg h]
    · intro s hs
      rcases hd : Nat.toDigits 10 n.toNat with _ | ⟨c, l⟩
      · exact Nat.toDigits_ne_nil hd
      · have hc := Nat.isDigit_of_mem_toDigits (by decide) (by decide) (hd ▸ List.mem_cons_self)
        rw [hd] at hs
        cases hs
        exact absurd hc (by decide)
  · next h =>
    rw [String.toList_append, Nat.toList_repr]
    change unsigned? true (Nat.toDigits 10 (-n).toNat ++ rest) = _
    rw [unsigned?_toDigits (by omega) hr]
    simp only [if_true, Int.toNat_of_nonneg (show 0 ≤ -n by omega), Int.neg_neg]

/-! ## Values -/

/-- A text that is read as a value wherever a value can end. -/
def Spells (l : List Char) (v : Node) : Prop :=
  ∀ d rest, Ends rest → value? (d + 1) (l ++ rest) = some (v, rest)

theorem spells_quoted (s : String) : Spells (quoted s) (.text (some s)) := by
  intro d rest _
  have hs : quoted s ++ rest = '"' :: (s.toList.flatMap escaped ++ '"' :: rest) := by
    simp [quoted]
  rw [hs, value?]
  change (string? _).map _ = _
  rw [string?_flatMap_escaped]
  rfl

theorem spells_null : Spells "null".toList .null := fun _ _ _ => rfl

theorem skip_of_integer (hc : c = '-' ∨ c.isDigit = true) : skip (c :: s) = c :: s := by
  have hb : isSpace c = false := by
    rw [Bool.eq_false_iff]
    intro hs
    simp only [isSpace, Bool.or_eq_true, beq_iff_eq] at hs
    rcases hs with ((rfl | rfl) | rfl) | rfl <;> exact absurd hc (by decide)
  rw [skip, List.dropWhile_cons, hb]
  rfl

theorem spells_integer (n : Int) : Spells (integer n) (.integer n) := by
  intro d rest hr
  obtain ⟨c, l, hl, hc⟩ := exists_integer n
  rw [← number?_integer hr, hl, List.cons_append, value?, skip_of_integer hc]
  -- no other value starts with a sign or a digit
  split
  case h_7 => rfl
  all_goals
    next h =>
      cases h
      exact absurd hc (by decide)

/-! ## Objects -/

/-- A field of an object, with the value that its text is read as. -/
structure Field where
  name : String
  text : List Char
  node : Node
  spells : Spells text node

namespace Field

variable {d : Nat} {f : Field} {fs : List Field}

def chars (f : Field) : List Char := quoted f.name ++ ':' :: f.text

def entry (f : Field) : Option String × Node := (some f.name, f.node)

/-- The characters of fields up to the closing brace. -/
def allChars : List Field → List Char
  | [] => ['\x7d']
  | [f] => f.chars ++ ['\x7d']
  | f :: fs => f.chars ++ ',' :: allChars fs

theorem chars_append :
    f.chars ++ s = '"' :: (f.name.toList.flatMap escaped ++ '"' :: ':' :: (f.text ++ s)) := by
  simp [chars, quoted]

theorem dropWord?_skip_cons (h : isSpace c = false) : dropWord? [c] (skip (c :: s)) = some s := by
  rw [skip, List.dropWhile_cons, h]
  exact dropWord?_append [c] s

theorem entries?_chars (hs : Ends s) : entries? (value? (d + 1)) (n + 1) (f.chars ++ s) =
    match skip s with
    | ',' :: rest => (entries? (value? (d + 1)) n rest).map fun r => (f.entry :: r.1, r.2)
    | '\x7d' :: rest => some ([f.entry], rest)
    | _ => none := by
  rw [chars_append, entries?, dropWord?_skip_cons rfl]
  simp only [Option.bind_eq_bind, Option.bind_some, string?_flatMap_escaped,
    dropWord?_skip_cons (show isSpace ':' = false from rfl), f.spells d s hs]
  rfl

theorem entries?_allChars (d : Nat) (f : Field) (rest : List Char) (h : fs.length < n) :
    entries? (value? (d + 1)) n (allChars (f :: fs) ++ rest) =
      some ((f :: fs).map entry, rest) := by
  induction fs generalizing f n with
  | nil =>
    obtain ⟨n, rfl⟩ := Nat.exists_eq_add_one_of_ne_zero (Nat.ne_of_gt h)
    rw [allChars, List.append_assoc, entries?_chars]
    · rfl
    · rintro _ ⟨⟩
      exact .inr (.inr rfl)
  | cons g fs ih =>
    obtain ⟨n, rfl⟩ := Nat.exists_eq_add_one_of_ne_zero (Nat.ne_of_gt (Nat.zero_lt_of_lt h))
    rw [allChars, List.append_assoc, entries?_chars]
    · change (entries? (value? (d + 1)) n (allChars (g :: fs) ++ rest)).map _ = _
      rw [ih g (Nat.lt_of_succ_lt_succ h)]
      rfl
    · rintro _ ⟨⟩
      exact .inl rfl
    · exact List.cons_ne_nil _ _

theorem exists_allChars (f : Field) (fs : List Field) : ∃ l, allChars (f :: fs) = '"' :: l := by
  rcases fs with _ | ⟨g, fs⟩ <;> exact ⟨_, rfl⟩

theorem length_le_allChars (fs : List Field) : fs.length ≤ (allChars fs).length := by
  induction fs with
  | nil => decide
  | cons f fs ih =>
    rcases fs with _ | ⟨g, fs⟩
    · simp [allChars]
    · rw [allChars, List.length_append]
      · simp only [List.length_cons] at ih ⊢
        omega
      · exact List.cons_ne_nil _ _

/-- **An object** is read as the table of its entries. -/
theorem value?_table (d : Nat) (fs : List Field) (rest : List Char) :
    value? (d + 2) ('\x7b' :: (allChars fs ++ rest)) = some (.table (fs.map entry), rest) := by
  rcases fs with _ | ⟨f, fs⟩
  · rfl
  · have hlen : fs.length < (allChars (f :: fs) ++ rest).length := by
      rw [List.length_append]
      exact Nat.lt_add_right _ (length_le_allChars (f :: fs))
    have he := entries?_allChars d f rest hlen
    obtain ⟨l, hl⟩ := exists_allChars f fs
    rw [hl] at he ⊢
    change (entries? (value? (d + 1)) ('"' :: l ++ rest).length ('"' :: l ++ rest)).map _ = _
    rw [he]
    rfl

end Field

end PlatformCore.Json
