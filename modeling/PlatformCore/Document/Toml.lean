/-
  TOML: the text form of the settings.

  A document is a list of statements, one a line: a key with its value, or a header that names
  the table to which the keys below it belong.

  * `statements?` reads the text and `document?` carries the statements out; `read?` does both;
  * values may stand inside each other up to a depth of `maxDepth`, and a key has at most
    `maxDepth` parts.
-/
import PlatformCore.Document.Toml.Scalar
import PlatformCore.Document.Toml.Tree
import PlatformCore.Document.Toml.Word

namespace PlatformCore.Toml

def maxDepth : Nat := 79

/-! ## Values -/

/-- The items of an array up to its closing bracket: at most `limit`. -/
def items? (value : Reader Node) : (limit : Nat) → Reader (List Node)
  | 0, _ => none
  | n + 1, s =>
    match skip s with
    | ']' :: rest => some ([], rest)
    | s => do
      let (v, rest) ← value s
      match skip rest with
      | ',' :: rest => (items? value n rest).map fun r => (v :: r.1, r.2)
      | ']' :: rest => some ([v], rest)
      | _ => none

def assignment? (value : Reader Node) : Reader (Path × Node) := fun s => do
  let (p, rest) ← path? maxDepth s
  let (v, rest) ← value (skipGap (← dropWord? ['='] rest))
  return ((p, v), rest)

/-- The keys and values of an inline table up to its closing brace: at most `limit`. -/
def assignments? (value : Reader Node) : (limit : Nat) → Reader (List (Path × Node))
  | 0, _ => none
  | n + 1, s => do
    let (a, rest) ← assignment? value s
    match skipGap rest with
    | ',' :: rest => (assignments? value n rest).map fun r => (a :: r.1, r.2)
    | '\x7d' :: rest => some ([a], rest)
    | _ => none

def tableOf? (l : List (Path × Node)) : Option Node :=
  (l.foldlM (fun es a => Entries.set? a.1 a.2 es) ([] : Entries)).map Entries.node

/-- The value at the start of a text, with arrays and inline tables up to a depth. -/
def value? : (depth : Nat) → Reader Node
  | n + 1, '[' :: s => (items? (value? n) (s.length + 1) s).map fun r => (.sequence r.1, r.2)
  | n + 1, '\x7b' :: s =>
    match skipGap s with
    | '\x7d' :: rest => some (.table [], rest)
    | s => do
      let (l, rest) ← assignments? (value? n) s.length s
      return (← tableOf? l, rest)
  | 0, '[' :: _ => none
  | 0, '\x7b' :: _ => none
  | _, '"' :: s => (string? ('"' :: s)).map fun r => (.text (some r.1), r.2)
  | _, '\'' :: s => (string? ('\'' :: s)).map fun r => (.text (some r.1), r.2)
  | _, s => scalar? s

/-! ## Statements -/

/-- What a line says. -/
inductive Statement where
  | table (p : Path)
  | element (p : Path)
  | assignment (p : Path) (v : Node)

/-- The statement at the start of a line, and the lines behind it. -/
def statement? : Reader Statement
  | '[' :: '[' :: s => do
    let (p, rest) ← path? maxDepth s
    return (.element p, ← endLine? (← dropWord? [']', ']'] rest))
  | '[' :: s => do
    let (p, rest) ← path? maxDepth s
    return (.table p, ← endLine? (← dropWord? [']'] rest))
  | s => do
    let ((p, v), rest) ← assignment? (value? maxDepth) s
    return (.assignment p v, ← endLine? rest)

def statementsUpTo? : (limit : Nat) → List Char → Option (List Statement)
  | 0, s => if skip s = [] then some [] else none
  | n + 1, s =>
    if skip s = [] then some []
    else do
      let (st, rest) ← statement? (skip s)
      return st :: (← statementsUpTo? n rest)

/-- The statements of a text.  There are no more than it has characters. -/
def statements? (s : List Char) : Option (List Statement) := statementsUpTo? s.length s

/-! ## Documents -/

/-- A document in the making. -/
structure Draft where
  root : Entries := []
  /-- The way to the table to which the next keys belong. -/
  current : List String := []

def Draft.add? (d : Draft) : Statement → Option Draft
  | .table p => (d.root.claim? p).map fun es => ⟨es, p.parents ++ [p.key]⟩
  | .element p => (d.root.extend? p).map fun es => ⟨es, p.parents ++ [p.key]⟩
  | .assignment p v =>
    (d.root.within .header (Entries.set? p v) d.current).map fun es => { d with root := es }

def document? (l : List Statement) : Option Node := (l.foldlM Draft.add? {}).map (·.root.node)

def skipMark : List Char → List Char
  | '\ufeff' :: s => s
  | s => s

def read? (text : String) : Option Node := do
  document? (← statements? (skipMark text.toList))

end PlatformCore.Toml
