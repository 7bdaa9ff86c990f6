/-
  Digits and numerals in number systems up to sixteen.

  * `digitValue? base c` is the value of a digit, capital or small;
  * `numeralValue base ds` is the number that digits spell, the most significant first;
  * `numeral? bound s` reads decimal digits, with one plus sign or none, as a number below a
    bound;
  * `isDecimal` recognizes numbers of any sign, with or without a fraction and an exponent.
-/

namespace PlatformCore.Text

def digitValue? (base : Nat) (c : Char) : Option Nat :=
  let n := c.toNat
  let v := if 48 ≤ n ∧ n ≤ 57 then n - 48
    else if 97 ≤ n ∧ n ≤ 102 then n - 87
    else if 65 ≤ n ∧ n ≤ 70 then n - 55
    else base
  if v < base then some v else none

def isDigitOf (base : Nat) (c : Char) : Bool := (digitValue? base c).isSome

/-- The number that digits spell. -/
def numeralValue (base : Nat) (ds : List Char) : Nat :=
  ds.foldl (fun n c => n * base + (digitValue? base c).getD 0) 0

def dropPlus : List Char → List Char
  | '+' :: ds => ds
  | ds => ds

/-- The number below a bound that decimal digits spell, with one plus sign before them or
    none. -/
def numeral? (bound : Nat) (s : List Char) : Option Nat :=
  let ds := dropPlus s
  let n := numeralValue 10 ds
  if ds ≠ [] ∧ ds.all (isDigitOf 10) ∧ n < bound then some n else none

def dropSign : List Char → List Char
  | '+' :: s => s
  | '-' :: s => s
  | s => s

def isExponent : List Char → Bool
  | [] => true
  | c :: s => (c == 'e' || c == 'E') && dropSign s != [] && (dropSign s).all (isDigitOf 10)

/-- Whether a text spells a number that may have a fraction and an exponent, with digits on at
    least one side of the point; or an infinity, or what is no number. -/
def isDecimal (s : List Char) : Bool :=
  let s := dropSign s
  let whole := s.takeWhile (isDigitOf 10)
  let rest := s.dropWhile (isDigitOf 10)
  let behind := match rest with
    | '.' :: r => r
    | _ => []
  let fraction := behind.takeWhile (isDigitOf 10)
  let rest := if rest.head? = some '.' then behind.dropWhile (isDigitOf 10) else rest
  ["inf", "infinity", "nan"].contains (String.ofList (s.map Char.toLower)) ||
    (whole != [] || fraction != []) && isExponent rest

end PlatformCore.Text
