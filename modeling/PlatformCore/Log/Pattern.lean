/-
  Patterns: regular expressions that the values of fields are held against.

  A pattern is a choice of rows of parts.  A part is an atom, a class, a group in parentheses, or
  a part with a sign of repetition.  A group may have a name, and may switch modes on and off:
  for itself, or for what follows it in the group around it.

  * `Pattern.fault?` says what is wrong with a text as a pattern, if anything is, and
    `PatternFault.message` is the text of that.

  Patterns stand between braces, so none holds a closing brace; what needs one, such as a number
  of repetitions, is refused.
-/
import PlatformCore.Log.Pattern.Class
import PlatformCore.Text.Alphanumeric

namespace PlatformCore.Log

inductive PatternFault where
  | form
  | wordEdge
deriving DecidableEq, Repr

def PatternFault.message : PatternFault → String
  | form => "error building NFA"
  | wordEdge =>
    "unsupported regex feature for DFAs: cannot build DFAs for regexes with Unicode word " ++
      "boundaries; switch to ASCII word boundaries, or heuristically enable Unicode word " ++
      "boundaries or use a different regex engine"

namespace Pattern

/-! ## Parts -/

/-- What is known of a part of a pattern: how deep it is nested, whether it asks for an edge of a
    word of any letters, and whether it may be repeated. -/
structure Part where
  depth : Nat := 0
  seeksWordEdge : Bool := false
  isRepeatable : Bool := true
deriving DecidableEq, Repr

namespace Part

/-- Parts that make a whole, one after the other or one instead of the other. -/
def whole (ps : List Part) : Part where
  depth := wholeDepth (ps.map (·.depth))
  seeksWordEdge := ps.any (·.seeksWordEdge)

def inside (p : Part) : Part := { p with depth := p.depth + 1, isRepeatable := true }

def switch : Part := { isRepeatable := false }

def ofAtom (m : Mode) (a : Atom) : Part := { seeksWordEdge := m.isWide && a = .wordEdge }

end Part

/-! ## Groups -/

/-- What an opening parenthesis begins. -/
inductive Opening where
  | switch (m : Mode)
  /-- A group in a mode; the names of groups up to here. -/
  | group (m : Mode) (names : List (List Char))

/-- The letters that switch modes, with a hyphen before those to switch off. -/
def switchLetters : List Char := "-imsUuRx".toList

/-- The letters up to a colon or a closing parenthesis: none occurs twice, and none is missing
    behind a hyphen.  `seen` are the letters so far. -/
def letters? (seen : List Char) : Reader (List Char)
  | [] => none
  | c :: s =>
    if c = ':' ∨ c = ')' then
      if seen.getLast? = some '-' then none else some (seen, c :: s)
    else if switchLetters.contains c && !seen.contains c then letters? (seen ++ [c]) s
    else none

def isGroupName : List Char → Bool
  | [] => false
  | c :: s =>
    (c == '_' || Text.isAlphabetic c) &&
      s.all fun c => c == '_' || c == '.' || c == '[' || c == ']' || Text.isAlphanumeric c

def namedGroup? (m : Mode) (names : List (List Char)) : Reader Opening := fun s =>
  let name := s.takeWhile (· ≠ '>')
  match s.dropWhile (· ≠ '>') with
  | [] => none
  | _ :: rest =>
    if isGroupName name && !names.contains name then some (.group m (name :: names), rest)
    else none

def opening? (m : Mode) (names : List (List Char)) : Reader Opening
  | '?' :: 'P' :: '<' :: s => namedGroup? m names s
  | '?' :: '<' :: s => namedGroup? m names s
  | '?' :: s =>
    match letters? [] s with
    | some (ls, ':' :: rest) => some (.group (m.apply ls) names, rest)
    | some (ls, ')' :: rest) => if ls = [] then none else some (.switch (m.apply ls), rest)
    | _ => none
  | s => some (.group m names, s)

/-! ## Patterns -/

/-- How far the reading of a group has come. -/
structure Progress where
  mode : Mode := {}
  names : List (List Char) := []
  /-- The parts of the row, the last first. -/
  row : List Part := []
  /-- The rows before it, the last first. -/
  rows : List Part := []

namespace Progress

def push (p : Progress) (part : Part) : Progress := { p with row := part :: p.row }

def nextRow (p : Progress) : Progress := { p with row := [], rows := Part.whole p.row :: p.rows }

def whole (p : Progress) : Part := Part.whole p.nextRow.rows

end Progress

def dropLazy : List Char → List Char
  | '?' :: s => s
  | s => s

/-- Reads up to the end of the text, or to a closing parenthesis that no group in it needs, with
    `fuel` for the steps. -/
def read? : (fuel : Nat) → Progress → Reader (Part × List (List Char))
  | 0, _, _ => none
  | n + 1, p, s =>
    match p.mode.skip s with
    | [] => some ((p.whole, p.names), [])
    | ')' :: r => some ((p.whole, p.names), ')' :: r)
    | '|' :: r => read? n p.nextRow r
    | '(' :: r =>
      match opening? p.mode p.names (p.mode.skip r) with
      | none => none
      | some (.switch m, r) => read? n ({ p with mode := m }.push .switch) r
      | some (.group m names, r) =>
        match read? n { mode := m, names := names } r with
        | some ((q, names), ')' :: r) => read? n ({ p with names := names }.push q.inside) r
        | _ => none
    | '[' :: r =>
      match classDepth? p.mode r with
      | some (d, r) => read? n (p.push { depth := d }) r
      | none => none
    | '\x7b' :: _ => none
    | c :: r =>
      if c = '?' ∨ c = '*' ∨ c = '+' then
        match p.row with
        | q :: row =>
          if q.isRepeatable then read? n ({ p with row := row }.push q.inside) (dropLazy r)
          else none
        | [] => none
      else
        match Atom.read? p.mode (c :: r) with
        | some (a, r) =>
          if p.mode.admits a then read? n (p.push (.ofAtom p.mode a)) r else none
        | none => none

def maxDepth : Nat := 250

def fault? (s : List Char) : Option PatternFault :=
  match read? (s.length + 1) {} s with
  | some ((p, _), []) =>
    if maxDepth < p.depth then some .form
    else if p.seeksWordEdge then some .wordEdge
    else none
  | _ => some .form

end Pattern

end PlatformCore.Log
