/-
  Classes: characters between brackets.

  The members of a class are characters, ranges of characters, kinds of characters, and other
  classes.  Two classes side by side are taken together; with `&&`, `--` or `~~` between them
  they are intersected, subtracted, or compared.  A hyphen that is no sign of a range stands for
  itself, and so does a closing bracket in the first place.

  * `classDepth?` reads a class and tells how deep it is nested; it fails if there is none.
-/
import PlatformCore.Log.Pattern.Atom

namespace PlatformCore.Log.Pattern

/-- The depth of parts that make a whole: more than one of them are a level of their own. -/
def wholeDepth : List Nat → Nat
  | [] => 0
  | [d] => d
  | ds => 1 + ds.foldl max 0

/-! ## Members -/

def classNames : List String :=
  ["alnum", "alpha", "ascii", "blank", "cntrl", "digit", "graph", "lower", "print", "punct",
    "space", "upper", "word", "xdigit"]

/-- The name of a class, between colons and before its own closing bracket; tells whether it is
    negated. -/
def named? : Reader Bool
  | ':' :: s =>
    let negated := s.head? = some '^'
    let s := if negated then s.drop 1 else s
    match s.dropWhile (· ≠ ':') with
    | ':' :: ']' :: rest =>
      if classNames.contains (String.ofList (s.takeWhile (· ≠ ':'))) then some (negated, rest)
      else none
    | _ => none
  | _ => none

def member? (m : Mode) : Reader Atom
  | [] => none
  | '\\' :: s => escape? m s
  | c :: s => some (.char c false, s)

/-- The character that follows a hyphen.  Of a comment, only its mark and the blanks behind that
    are passed over. -/
def beyondHyphen (m : Mode) (s : List Char) : Option Char :=
  if m.isSpaced then
    match s.dropWhile Text.isBlank with
    | [] => s.head?
    | '#' :: r => (r.dropWhile Text.isBlank).head?.or s.head?
    | c :: _ => some c
  else s.head?

def dropMembers? (m : Mode) (s : List Char) : Option (List Char) := do
  let (a, s) ← member? m s
  match m.skip s with
  | '-' :: r =>
    if beyondHyphen m r = some ']' ∨ beyondHyphen m r = some '-' then
      if m.admitsInClass a then some ('-' :: r) else none
    else
      let (b, rest) ← member? m (m.skip r)
      match a, b with
      | .char x _, .char y _ =>
        if x ≤ y ∧ m.admitsInClass a ∧ m.admitsInClass b then some rest else none
      | _, _ => none
  | s => if m.admitsInClass a then some s else none

/-! ## Classes -/

/-- Drops the sign that negates a class, and tells whether there was one. -/
def dropCaret (m : Mode) (s : List Char) : Bool × List Char :=
  match m.skip s with
  | '^' :: r => (true, r)
  | s => (false, s)

/-- The depth of what stands before an operator or the end: `left` of what stands before the
    last operator, `ds` of the members since. -/
def operandDepth (left : Option Nat) (ds : List Nat) : Nat :=
  match left with
  | none => wholeDepth ds
  | some d => 1 + max d (wholeDepth ds)

/-- Reads members up to the closing bracket, with `fuel` for the steps.  At the start a hyphen
    and a closing bracket stand for themselves. -/
def membersDepth? (m : Mode) : (fuel : Nat) → (atStart : Bool) → (left : Option Nat) →
    (ds : List Nat) → Reader Nat
  | 0, _, _, _, _ => none
  | n + 1, atStart, left, ds, s =>
    let s := m.skip s
    if atStart ∧ s.head? = some '-' then
      if m.admitsInClass (.char '-' false) then membersDepth? m n true left (0 :: ds) (s.drop 1)
      else none
    else if atStart ∧ ds = [] ∧ s.head? = some ']' then
      if m.admitsInClass (.char ']' false) then membersDepth? m n false left [0] (s.drop 1)
      else none
    else
      match s with
      | [] => none
      | ']' :: rest => some (operandDepth left ds, rest)
      | '&' :: '&' :: r => membersDepth? m n false (some (operandDepth left ds)) [] r
      | '-' :: '-' :: r => membersDepth? m n false (some (operandDepth left ds)) [] r
      | '~' :: '~' :: r => membersDepth? m n false (some (operandDepth left ds)) [] r
      | '[' :: r =>
        match named? r with
        | some (negated, r) =>
          if m.admitsNamed negated then membersDepth? m n false left (0 :: ds) r else none
        | none =>
          let (negated, r) := dropCaret m r
          if negated && !m.isWide then none
          else
            match membersDepth? m n true none [] r with
            | some (d, r) => membersDepth? m n false left ((d + 1) :: ds) r
            | none => none
      | s =>
        match dropMembers? m s with
        | some r => membersDepth? m n false left (0 :: ds) r
        | none => none

/-- The depth of the class whose opening bracket stands before a text. -/
def classDepth? (m : Mode) : Reader Nat := fun s =>
  let (negated, s) := dropCaret m s
  if negated && !m.isWide then none
  else (membersDepth? m (s.length + 1) true none [] s).map fun r => (1 + r.1, r.2)

end PlatformCore.Log.Pattern
