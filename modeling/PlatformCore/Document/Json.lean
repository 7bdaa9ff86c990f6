/-
  JSON: the text form of documents and events.

  * `Json.read?` reads a text as one value.  Strings are read in two passes: `pieces?` finds
    where a string ends and what each escape names, `assemble?` puts surrogates together;
  * a number is whole if it has neither fraction nor exponent and is not a negative zero;
  * `Json.quoted` writes a string: the quote, the backslash and the controls are escaped, all
    else stands for itself.
-/
import PlatformCore.Document.Node
import PlatformCore.Document.Reader
import PlatformCore.Text.Numeral

namespace PlatformCore.Json

/-! ## Blanks -/

def isSpace (c : Char) : Bool := c == ' ' || c == '\n' || c == '\t' || c == '\r'

def skip (s : List Char) : List Char := s.dropWhile isSpace

/-! ## Strings -/

/-- A part of a string: a character, or a 16-bit unit named by an escape. -/
inductive Piece where
  | char (c : Char)
  | unit (n : Nat)
deriving DecidableEq, Repr

def unit? (a b c d : Char) : Option Nat := do
  let hex := Text.digitValue? 16
  return (((← hex a) * 16 + (← hex b)) * 16 + (← hex c)) * 16 + (← hex d)

def escape? : Char → Option Char
  | '"' => some '"'
  | '\\' => some '\\'
  | '/' => some '/'
  | 'b' => some '\x08'
  | 'f' => some '\x0c'
  | 'n' => some '\n'
  | 'r' => some '\r'
  | 't' => some '\t'
  | _ => none

def pieces? : List Char → Option (List Piece × List Char)
  | [] => none
  | '"' :: rest => some ([], rest)
  | '\\' :: 'u' :: a :: b :: c :: d :: rest =>
    match unit? a b c d, pieces? rest with
    | some n, some (ps, rest) => some (.unit n :: ps, rest)
    | _, _ => none
  | '\\' :: e :: rest =>
    match escape? e, pieces? rest with
    | some c, some (ps, rest) => some (.char c :: ps, rest)
    | _, _ => none
  | c :: rest =>
    if c.toNat < 0x20 then none
    else
      match pieces? rest with
      | some (ps, rest) => some (.char c :: ps, rest)
      | none => none

def isHigh (n : Nat) : Bool := 0xd800 ≤ n && n < 0xdc00

def isLow (n : Nat) : Bool := 0xdc00 ≤ n && n < 0xe000

/-- The characters of a string, unless a surrogate stands alone. -/
def assemble? : List Piece → Option (List Char)
  | [] => some []
  | .char c :: ps => (assemble? ps).map (c :: ·)
  | .unit n :: ps =>
    if isHigh n then
      match ps with
      | .unit m :: ps =>
        if isLow m then
          (assemble? ps).map (Char.ofNat (0x10000 + (n - 0xd800) * 0x400 + (m - 0xdc00)) :: ·)
        else none
      | _ => none
    else if isLow n then none
    else (assemble? ps).map (Char.ofNat n :: ·)

/-- The string that starts behind an opening quote, and the rest. -/
def string? (s : List Char) : Option (Option String × List Char) := do
  let (ps, rest) ← pieces? s
  return ((assemble? ps).map String.ofList, rest)

/-! ## Numbers -/

def digits (s : List Char) : List Char × List Char :=
  (s.takeWhile (Text.isDigitOf 10), s.dropWhile (Text.isDigitOf 10))

def dropDigits? (s : List Char) : Option (List Char) :=
  if (digits s).1 = [] then none else some (digits s).2

/-- Drops a fraction, if there is one.  The flag tells whether there was. -/
def dropFraction? : List Char → Option (Bool × List Char)
  | '.' :: s => (dropDigits? s).map (true, ·)
  | s => some (false, s)

/-- Drops an exponent, if there is one.  The flag tells whether there was. -/
def dropExponent? : List Char → Option (Bool × List Char)
  | 'e' :: s => (dropDigits? (Text.dropSign s)).map (true, ·)
  | 'E' :: s => (dropDigits? (Text.dropSign s)).map (true, ·)
  | s => some (false, s)

/-- The number at the start of a text, behind its sign, and the rest. -/
def unsigned? (isNegative : Bool) (s : List Char) : Option (Node × List Char) := do
  let (ds, rest) := digits s
  guard (ds ≠ [] ∧ (ds.head? ≠ some '0' ∨ ds.length = 1))
  let (hasFraction, rest) ← dropFraction? rest
  let (hasExponent, rest) ← dropExponent? rest
  let n := Text.numeralValue 10 ds
  if hasFraction || hasExponent || (isNegative && n == 0) then return (.other, rest)
  else return (.integer (if isNegative then -(n : Int) else n), rest)

def number? : List Char → Option (Node × List Char)
  | '-' :: s => unsigned? true s
  | s => unsigned? false s

/-! ## Values -/

/-- The items of a sequence up to its closing bracket: at most `limit`. -/
def items? (value : Reader Node) : (limit : Nat) → Reader (List Node)
  | 0, _ => none
  | n + 1, s =>
    match value s with
    | none => none
    | some (v, rest) =>
      match skip rest with
      | ',' :: rest => (items? value n rest).map fun r => (v :: r.1, r.2)
      | ']' :: rest => some ([v], rest)
      | _ => none

/-- The entries of a table up to its closing brace: at most `limit`. -/
def entries? (value : Reader Node) : (limit : Nat) → Reader (List (Option String × Node))
  | 0, _ => none
  | n + 1, s => do
    let rest ← dropWord? ['"'] (skip s)
    let (k, rest) ← string? rest
    let rest ← dropWord? [':'] (skip rest)
    let (v, rest) ← value rest
    match skip rest with
    | ',' :: rest => (entries? value n rest).map fun r => ((k, v) :: r.1, r.2)
    | '\x7d' :: rest => some ([(k, v)], rest)
    | _ => none

/-- The value at the start of a text, with at most `depth` values inside each other. -/
def value? : (depth : Nat) → Reader Node
  | 0, _ => none
  | n + 1, s =>
    match skip s with
    | '"' :: rest => (string? rest).map fun r => (.text r.1, r.2)
    | '[' :: rest =>
      match skip rest with
      | ']' :: rest => some (.sequence [], rest)
      | rest => (items? (value? n) rest.length rest).map fun r => (.sequence r.1, r.2)
    | '\x7b' :: rest =>
      match skip rest with
      | '\x7d' :: rest => some (.table [], rest)
      | rest => (entries? (value? n) rest.length rest).map fun r => (.table r.1, r.2)
    | 'n' :: rest => (dropWord? "ull".toList rest).map (.null, ·)
    | 't' :: rest => (dropWord? "rue".toList rest).map (.bool true, ·)
    | 'f' :: rest => (dropWord? "alse".toList rest).map (.bool false, ·)
    | rest => number? rest

/-- Reads a text as one value.  No value is deeper than its text is long. -/
def read? (text : String) : Option Node :=
  match value? (text.toList.length + 1) text.toList with
  | some (v, rest) => if skip rest = [] then some v else none
  | none => none

/-! ## Writing -/

def hexDigit (n : Nat) : Char := Char.ofNat (if n < 10 then n + 48 else n + 87)

def escaped (c : Char) : List Char :=
  if c = '"' then ['\\', '"']
  else if c = '\\' then ['\\', '\\']
  else if c = '\x08' then ['\\', 'b']
  else if c = '\x0c' then ['\\', 'f']
  else if c = '\n' then ['\\', 'n']
  else if c = '\r' then ['\\', 'r']
  else if c = '\t' then ['\\', 't']
  else if c.toNat < 0x20 then
    ['\\', 'u', '0', '0', hexDigit (c.toNat / 16), hexDigit (c.toNat % 16)]
  else [c]

def quoted (s : String) : List Char := '"' :: (s.toList.flatMap escaped ++ ['"'])

def integer (n : Int) : List Char := (toString n).toList

end PlatformCore.Json
