/-
  What patterns are made of: characters, and what stands for characters or for places between
  them.

  * `Mode` is what is switched on where a part of a pattern stands;
  * `Atom.read?` reads an atom, and `escape?` what follows a backslash;
  * `Mode.admits` and `Mode.admitsInClass` tell which atoms may stand in a mode.

  A wide pattern is about all characters, a narrow one about ASCII only.  Of the characters
  beyond ASCII nothing is known but their code points.  So a wide pattern cannot ignore case, nor
  ask for digits, blanks or letters as such; and a narrow pattern can name nothing but ASCII.
-/
import PlatformCore.Document.Reader
import PlatformCore.Text.Blank
import PlatformCore.Text.Numeral

namespace PlatformCore.Log.Pattern

/-! ## Modes -/

/-- What is switched on where a part of a pattern stands: that capital and small letters are one,
    that characters beyond ASCII count, and that blanks and comments do not. -/
structure Mode where
  ignoresCase : Bool := false
  isWide : Bool := true
  isSpaced : Bool := false
deriving DecidableEq, Repr

namespace Mode

def switch (on : Bool) (m : Mode) : Char → Mode
  | 'i' => { m with ignoresCase := on }
  | 'u' => { m with isWide := on }
  | 'x' => { m with isSpaced := on }
  | _ => m

/-- Switches on what the letters before the hyphen stand for, and off the others. -/
def apply (m : Mode) (letters : List Char) : Mode :=
  let on := letters.takeWhile (· ≠ '-')
  let off := letters.dropWhile (· ≠ '-')
  off.foldl (switch false) (on.foldl (switch true) m)

/-- Drops blanks and comments, which run from a number sign to the end of the line. -/
def dropSpace : (inComment : Bool) → List Char → List Char
  | _, [] => []
  | true, c :: s => dropSpace (c != '\n') s
  | false, c :: s =>
    if Text.isBlank c then dropSpace false s
    else if c = '#' then dropSpace true s
    else c :: s

def skip (m : Mode) (s : List Char) : List Char := if m.isSpaced then dropSpace false s else s

end Mode

/-! ## Atoms -/

/-- The least part of a pattern. -/
inductive Atom where
  /-- A character; in a narrow pattern one that is named by two digits is a byte. -/
  | char (c : Char) (isByte : Bool)
  | any
  /-- A place in the text: its start or its end, or that of a line. -/
  | place
  | wordEdge
  /-- A digit, a blank, a character of a word; or anything else, if negated. -/
  | kind (negated : Bool)
deriving DecidableEq, Repr

def hexDigits? (m : Mode) : (count : Nat) → Reader (List Char)
  | 0, s => some ([], s)
  | n + 1, c :: s =>
    if Text.isDigitOf 16 c then (hexDigits? m n (m.skip s)).map fun r => (c :: r.1, r.2) else none
  | _ + 1, [] => none

/-- The character whose code point a given number of digits spell. -/
def codePoint? (m : Mode) (count : Nat) : Reader Char := fun s => do
  let (ds, rest) ← hexDigits? m count (m.skip s)
  let n := Text.numeralValue 16 ds
  if n < 0xd800 ∨ (0xe000 ≤ n ∧ n < 0x110000) then some (Char.ofNat n, rest) else none

/-- The character that a character behind a backslash stands for. -/
def escapedChar? : Char → Option Char
  | 'a' => some '\x07'
  | 'f' => some '\x0c'
  | 'n' => some '\n'
  | 'r' => some '\r'
  | 't' => some '\t'
  | 'v' => some '\x0b'
  | c => if c.toNat < 0x80 && !c.isAlphanum then some c else none

/-- What follows a backslash.  A code point between braces and a class of characters by its name
    are among what is refused. -/
def escape? (m : Mode) : Reader Atom
  | [] => none
  | 'x' :: s => (codePoint? m 2 s).map fun r => (.char r.1 true, r.2)
  | 'u' :: s => (codePoint? m 4 s).map fun r => (.char r.1 false, r.2)
  | 'U' :: s => (codePoint? m 8 s).map fun r => (.char r.1 false, r.2)
  | c :: s =>
    let atom :=
      if "dsw".toList.contains c then some (.kind false)
      else if "DSW".toList.contains c then some (.kind true)
      else if "Az".toList.contains c then some .place
      else if "bB<>".toList.contains c then some .wordEdge
      else (escapedChar? c).map (.char · false)
    atom.map (·, s)

def Atom.read? (m : Mode) : Reader Atom
  | [] => none
  | '\\' :: s => escape? m s
  | '.' :: s => some (.any, s)
  | '^' :: s => some (.place, s)
  | '$' :: s => some (.place, s)
  | c :: s => some (.char c false, s)

namespace Mode

def admits (m : Mode) : Atom → Bool
  | .char c isByte => if m.isWide then !m.ignoresCase else !isByte || c.toNat < 0x80
  | .any => m.isWide
  | .place => true
  | .wordEdge => true
  | .kind negated => !m.isWide && !negated

def admitsInClass (m : Mode) : Atom → Bool
  | .char c _ => if m.isWide then !m.ignoresCase else c.toNat < 0x80
  | .kind negated => !m.isWide && !negated
  | _ => false

/-- Whether a class that ASCII has a name for may be a member of a class. -/
def admitsNamed (m : Mode) (negated : Bool) : Bool :=
  if m.isWide then !m.ignoresCase else !negated

end Mode

end PlatformCore.Log.Pattern
