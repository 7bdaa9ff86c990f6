/-
  TOML values that are one word: truth values, numbers, dates and times.

  Whole numbers are those of 64 bits with a sign, in decimal, hexadecimal, octal or binary
  digits; one underscore may stand between two digits.  A number with a fraction or an exponent
  only has to be well formed and not too large; a date must be one of the calendar.  A date or
  a time is a record none of whose fields has a name that matters.

  * `scalar?` reads the word at the start of a text: a date and a time of the day may have one
    space between them;
  * `ofWord?` tells what a whole word is.
-/
import PlatformCore.Document.Node
import PlatformCore.Document.Reader
import PlatformCore.Text.Numeral

namespace PlatformCore.Toml

/-! ## Whole numbers -/

def ungrouped? (base : Nat) : List Char → Option (List Char)
  | [] => none
  | [d] => if Text.isDigitOf base d then some [d] else none
  | d :: '_' :: ds => if Text.isDigitOf base d then (ungrouped? base ds).map (d :: ·) else none
  | d :: ds => if Text.isDigitOf base d then (ungrouped? base ds).map (d :: ·) else none

def sign : List Char → Bool × List Char
  | '-' :: s => (true, s)
  | '+' :: s => (false, s)
  | s => (false, s)

/-- The digits of a decimal number: no zero stands before another digit. -/
def decimal? (s : List Char) : Option (List Char) := do
  let ds ← ungrouped? 10 s
  if ds.head? = some '0' ∧ ds.length ≠ 1 then none else some ds

def integer? (w : List Char) : Option Int := do
  let n : Int ← match w with
    | '0' :: 'x' :: s => (ungrouped? 16 s).map fun ds => Text.numeralValue 16 ds
    | '0' :: 'o' :: s => (ungrouped? 8 s).map fun ds => Text.numeralValue 8 ds
    | '0' :: 'b' :: s => (ungrouped? 2 s).map fun ds => Text.numeralValue 2 ds
    | w => (decimal? (sign w).2).map fun ds =>
      let n : Int := Text.numeralValue 10 ds
      if (sign w).1 then -n else n
  if -9223372036854775808 ≤ n ∧ n < 9223372036854775808 then some n else none

/-! ## Numbers with a fraction or an exponent -/

def isExponentMark (c : Char) : Bool := c == 'e' || c == 'E'

/-- The least number, times a power of two, that is no finite floating-point number. -/
def overflow : Nat := Nat.pow 2 1024 - Nat.pow 2 970

/-- Whether `m` times the `e`-th power of ten is too large for a finite floating-point number. -/
def isTooLarge (m : Nat) (e : Int) : Bool :=
  let size : Int := (toString m).length + e
  m ≠ 0 && (309 < size || (309 ≤ size &&
    overflow * Nat.pow 10 (-e).toNat ≤ m * Nat.pow 10 e.toNat))

def exponent? : List Char → Option Int
  | [] => some 0
  | _ :: s => do
    let (isNegative, s) := sign s
    let n : Int := Text.numeralValue 10 (← ungrouped? 10 s)
    return if isNegative then -n else n

/-- Whether a word spells a number with a fraction or an exponent. -/
def isFloat (w : List Char) : Bool :=
  let (isNegative, s) := sign w
  if s = "inf".toList ∨ s = "nan".toList then true
  else
    let mantissa := s.takeWhile (!isExponentMark ·)
    let exponent := s.dropWhile (!isExponentMark ·)
    let whole := mantissa.takeWhile (· ≠ '.')
    match mantissa.dropWhile (· ≠ '.'), decimal? whole, exponent? exponent with
    | [], some ds, some e => exponent ≠ [] && (isNegative || !isTooLarge (Text.numeralValue 10 ds) e)
    | _ :: fraction, some ds, some e =>
      match ungrouped? 10 fraction with
      | some fs =>
        isNegative || !isTooLarge (Text.numeralValue 10 (ds ++ fs)) (e - fs.length)
      | none => false
    | _, _, _ => false

/-! ## Dates and times -/

/-- The number that a given number of digits at the start of a text spells, and the rest. -/
def digits? (n : Nat) : Reader Nat := fun s =>
  let ds := s.take n
  if ds.length = n ∧ ds.all (Text.isDigitOf 10) then some (Text.numeralValue 10 ds, s.drop n)
  else none

def isLeapYear (y : Nat) : Bool := y % 4 == 0 && (y % 100 != 0 || y % 400 == 0)

def daysOfMonth (y m : Nat) : Nat :=
  if m = 2 then (if isLeapYear y then 29 else 28)
  else if m = 4 ∨ m = 6 ∨ m = 9 ∨ m = 11 then 30 else 31

def dropDate? (s : List Char) : Option (List Char) := do
  let (y, s) ← digits? 4 s
  let (m, s) ← digits? 2 (← dropWord? ['-'] s)
  let (d, s) ← digits? 2 (← dropWord? ['-'] s)
  if 1 ≤ m ∧ m ≤ 12 ∧ 1 ≤ d ∧ d ≤ daysOfMonth y m then some s else none

def dropMinutes? (s : List Char) : Option (List Char) := do
  let (h, s) ← digits? 2 s
  let (m, s) ← digits? 2 (← dropWord? [':'] s)
  if h ≤ 23 ∧ m ≤ 59 then some s else none

def dropTime? (s : List Char) : Option (List Char) := do
  let (sec, s) ← digits? 2 (← dropWord? [':'] (← dropMinutes? s))
  if 60 < sec then none
  else match s with
  | '.' :: s =>
    if (s.takeWhile (Text.isDigitOf 10)) = [] then none
    else some (s.dropWhile (Text.isDigitOf 10))
  | s => some s

def isOffset : List Char → Bool
  | [] => true
  | ['Z'] => true
  | ['z'] => true
  | '+' :: s => dropMinutes? s == some []
  | '-' :: s => dropMinutes? s == some []
  | _ => false

def isMoment (w : List Char) : Bool :=
  match dropDate? w with
  | some [] => true
  | some (c :: s) => (c == 'T' || c == 't' || c == ' ') && (dropTime? s).any isOffset
  | none => dropTime? w == some []

/-! ## Words -/

def isWordChar (c : Char) : Bool :=
  c.isAlphanum || c == '_' || c == '-' || c == '+' || c == '.' || c == ':'

def ofWord? (w : List Char) : Option Node :=
  if w = "true".toList then some (.bool true)
  else if w = "false".toList then some (.bool false)
  else if isMoment w then some (.table [])
  else if isFloat w then some .other
  else (integer? w).map .integer

def scalar? : Reader Node := fun s =>
  let w := s.takeWhile isWordChar
  let rest := s.dropWhile isWordChar
  match dropDate? w, rest with
  | some [], ' ' :: t =>
    if (t.takeWhile isWordChar) = [] then some (.table [], rest)
    else
      (ofWord? (w ++ ' ' :: t.takeWhile isWordChar)).map fun v => (v, t.dropWhile isWordChar)
  | _, _ => (ofWord? w).map fun v => (v, rest)

end PlatformCore.Toml
