/-
  TOML words: blanks, comments, strings and keys.

  A string stands between one or three quotes of one kind.  Between `"` an escape stands for a
  character, between `'` all stands for itself.  Between three quotes lines may end, and the
  content may hold, and end in, one or two quotes of that kind.

  * `skip` drops blanks, ends of lines and comments, and `endLine?` the rest of a line that says
    nothing more;
  * `string?` reads a string, and `path?` a key of one part or several.
-/
import PlatformCore.Document.Reader
import PlatformCore.Text.Numeral

namespace PlatformCore.Toml

/-! ## Blanks and comments -/

def isGap (c : Char) : Bool := c == ' ' || c == '\t'

/-- Whether a character may stand in a comment or a string: no control but the tabulator. -/
def isPlain (c : Char) : Bool := c == '\t' || (0x20 ≤ c.toNat && c.toNat ≠ 0x7f)

def skipGap (s : List Char) : List Char := s.dropWhile isGap

def newline? : List Char → Option (List Char)
  | '\n' :: s => some s
  | '\r' :: '\n' :: s => some s
  | _ => none

/-- Drops blanks, ends of lines and comments.  The flag tells whether a comment has begun. -/
def skipFrom : (inComment : Bool) → List Char → List Char
  | _, [] => []
  | _, '\n' :: s => skipFrom false s
  | _, '\r' :: '\n' :: s => skipFrom false s
  | true, c :: s => if isPlain c then skipFrom true s else c :: s
  | false, c :: s =>
    if c = '#' then skipFrom true s else if isGap c then skipFrom false s else c :: s

def skip (s : List Char) : List Char := skipFrom false s

def skipComment : List Char → List Char
  | '#' :: s => s.dropWhile isPlain
  | s => s

/-- Drops the rest of a line, on which nothing but a comment stands. -/
def endLine? (s : List Char) : Option (List Char) :=
  match skipComment (skipGap s) with
  | [] => some []
  | s => newline? s

/-! ## Strings -/

def codePoint? (ds : List Char) : Option Char :=
  let n := Text.numeralValue 16 ds
  if ds.all (Text.isDigitOf 16) ∧ n.isValidChar then some (Char.ofNat n) else none

def escape? : Char → Option Char
  | 'b' => some '\x08'
  | 't' => some '\t'
  | 'n' => some '\n'
  | 'f' => some '\x0c'
  | 'r' => some '\r'
  | '"' => some '"'
  | '\\' => some '\\'
  | _ => none

def char? : Reader (List Char)
  | '\\' :: 'u' :: s =>
    if s.length < 4 then none else (codePoint? (s.take 4)).map fun c => ([c], s.drop 4)
  | '\\' :: 'U' :: s =>
    if s.length < 8 then none else (codePoint? (s.take 8)).map fun c => ([c], s.drop 8)
  | '\\' :: c :: s => (escape? c).map fun c => ([c], s)
  | '"' :: _ => none
  | c :: s => if isPlain c then some ([c], s) else none
  | [] => none

def literal? : Reader (List Char)
  | '\'' :: _ => none
  | c :: s => if isPlain c then some ([c], s) else none
  | [] => none

def quotes (q : Char) (s : List Char) : Nat := (s.takeWhile (· = q)).length

/-- Drops a backslash with the end of the line and the blanks and empty lines behind it. -/
def continuation? : List Char → Option (List Char)
  | '\\' :: s => (newline? (skipGap s)).map fun s => skipLines s
  | _ => none
where
  /-- Drops blanks and ends of lines. -/
  skipLines : List Char → List Char
    | '\n' :: s => skipLines s
    | '\r' :: '\n' :: s => skipLines s
    | c :: s => if isGap c then skipLines s else c :: s
    | [] => []

def part? (q : Char) (char : Reader (List Char)) (s : List Char) :
    Option (List Char × List Char) :=
  if quotes q s = 1 ∨ quotes q s = 2 then some (s.splitAt (quotes q s))
  else match newline? s with
  | some rest => some (['\n'], rest)
  | none =>
    match if q = '"' then continuation? s else none with
    | some rest => some ([], rest)
    | none => char s

def parts (part : Reader (List Char)) : (limit : Nat) → List Char → List Char × List Char
  | 0, s => ([], s)
  | n + 1, s =>
    match part s with
    | none => ([], s)
    | some (cs, rest) =>
      let (ds, rest) := parts part n rest
      (cs ++ ds, rest)

def line? (q : Char) (char : Reader (List Char)) : Reader String := fun s => do
  let (cs, rest) := parts char s.length s
  return (String.ofList cs, ← dropWord? [q] rest)

def lines? (q : Char) (char : Reader (List Char)) : Reader String := fun s =>
  let s := (newline? s).getD s
  let (cs, rest) := parts (part? q char) s.length s
  let k := quotes q rest
  if 3 ≤ k ∧ k ≤ 5 then some (String.ofList (cs ++ List.replicate (k - 3) q), rest.drop k)
  else none

def string? : Reader String
  | '"' :: '"' :: '"' :: s => lines? '"' char? s
  | '"' :: s => line? '"' char? s
  | '\'' :: '\'' :: '\'' :: s => lines? '\'' literal? s
  | '\'' :: s => line? '\'' literal? s
  | _ => none

/-! ## Keys -/

/-- A key of several parts: each but the last names a table. -/
structure Path where
  parents : List String
  key : String
deriving DecidableEq, Repr

def isKeyChar (c : Char) : Bool := c.isAlphanum || c == '_' || c == '-'

def key? : Reader String
  | '"' :: s => line? '"' char? s
  | '\'' :: s => line? '\'' literal? s
  | s =>
    let cs := s.takeWhile isKeyChar
    if cs = [] then none else some (String.ofList cs, s.dropWhile isKeyChar)

/-- The key at the start of a text, of at most `limit` parts, with the blanks around it. -/
def path? : (limit : Nat) → Reader Path
  | 0, _ => none
  | n + 1, s => do
    let (k, rest) ← key? (skipGap s)
    match skipGap rest with
    | '.' :: rest =>
      let (p, rest) ← path? n rest
      return ({ p with parents := k :: p.parents }, rest)
    | rest => return (⟨[], k⟩, rest)

end PlatformCore.Toml
