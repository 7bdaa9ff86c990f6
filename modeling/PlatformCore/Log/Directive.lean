/-
  Directives: which log records are written.

  A directive names a part of the program, a span, fields of the span, or none of these, and
  how much it lets through: `target[span{field=value}]=level`.  A directive that is a level
  alone is about all records, and one without a level lets all through.

  * `Directive.ofText?` reads a directive, and `DirectiveFault.message` says what is wrong
    with a text that spells none.

  Where the parts of a directive lie, in bytes, is found in the text without the blanks around
  it, but they are cut out of the text as it stands.  So a blank in front is part of a name, and
  one behind is part of a level.
-/
import PlatformCore.Log.Pattern
import PlatformCore.Log.Record
import PlatformCore.Text.Alphanumeric
import PlatformCore.Text.Blank
import PlatformCore.Text.Numeral
import PlatformCore.Text.Utf8

namespace PlatformCore.Log

/-! ## How much is let through -/

/-- How much is let through: nothing, or all that matters at least as much as a level. -/
abbrev Limit := Option Level

namespace Limit

def rank : Limit → Nat
  | none => 0
  | some l => l.rank

def admits (t : Limit) (l : Level) : Bool := l.rank ≤ t.rank

def named : List (String × Limit) :=
  [("off", none), ("error", some .error), ("warn", some .warn), ("info", some .info),
    ("debug", some .debug), ("trace", some .trace)]

/-- The limit that a text spells: by its rank, or by its name in capital or small letters. -/
def ofText? (s : List Char) : Option Limit :=
  match (Text.numeral? 18446744073709551616 s).bind (named[·]?) with
  | some e => some e.2
  | none => (named.find? fun e => e.1.toList = s.map Char.toLower).map (·.2)

end Limit

/-! ## Directives -/

/-- What the value of a field is held against. -/
inductive ValuePattern where
  | flag (b : Bool)
  /-- A natural number below 2^64. -/
  | count (n : Nat)
  | decimal (text : String)
  | text (pattern : String)
deriving DecidableEq, Repr

def ValuePattern.ofText? (s : List Char) : Except PatternFault ValuePattern :=
  if s = "true".toList then .ok (.flag true)
  else if s = "false".toList then .ok (.flag false)
  else
    match Text.numeral? 18446744073709551616 s with
    | some n => .ok (.count n)
    | none =>
      if Text.isDecimal s then .ok (.decimal (String.ofList s))
      else
        match Pattern.fault? s with
        | some fault => .error fault
        | none => .ok (.text (String.ofList s))

/-- A field that a span must have. -/
structure FieldPattern where
  name : String
  value : Option ValuePattern
deriving DecidableEq, Repr

/-- What is let through, and where. -/
structure Directive where
  /-- How the names of the parts of the program begin; any if absent. -/
  target : Option String := none
  span : Option String := none
  fields : List FieldPattern := []
  limit : Limit := some .trace
deriving DecidableEq, Repr

inductive DirectiveFault where
  | form
  | level
  | field (fault : PatternFault)
deriving DecidableEq, Repr

def DirectiveFault.message : DirectiveFault → String
  | form => "invalid filter directive"
  | level =>
    "error parsing level filter: expected one of \"off\", \"error\", \"warn\", \"info\", " ++
      "\"debug\", \"trace\", or a number 0-5"
  | field fault => "invalid field filter: " ++ fault.message

namespace Directive

def isFirst (c : Char) : Bool := c == '-' || c == ':' || c == '_' || Text.isAlphanumeric c

def byte (c : Char) : UInt8 := c.toNat.toUInt8

/-- The place of the first of some characters in ASCII, from a place on. -/
def indexFrom? (cs : List Char) (i : Nat) (s : List UInt8) : Option Nat :=
  ((s.drop i).findIdx? (cs.map byte).contains).map (i + ·)

def hasAt (s : List UInt8) (i : Nat) (c : Char) : Bool := s[i]? == some (byte c)

/-- The text between two places.  There is none if a place lies within a character. -/
def slice (s : List UInt8) (i j : Nat) : Except DirectiveFault String :=
  match Text.ofUtf8? ((s.drop i).take (j - i)) with
  | some text => .ok text
  | none => .error .form

/-- The field that a text between braces asks for.  Of its parts between equals signs, those
    behind the second do not matter. -/
def fieldOf? (s : List Char) : Except DirectiveFault FieldPattern :=
  let name := String.ofList (s.takeWhile (· ≠ '='))
  match s.dropWhile (· ≠ '=') with
  | [] => .ok ⟨name, none⟩
  | _ :: v =>
    match ValuePattern.ofText? (v.takeWhile (· ≠ '=')) with
    | .ok value => .ok ⟨name, some value⟩
    | .error fault => .error (.field fault)

def withLevel (d : Directive) (s : List UInt8) (i : Nat) : Except DirectiveFault Directive := do
  let text ← slice s i s.length
  if text = "" then .ok d
  else match Limit.ofText? text.toList with
    | some l => .ok { d with limit := l }
    | none => .error .level

def afterSpan (d : Directive) (s t : List UInt8) (i : Nat) : Except DirectiveFault Directive :=
  if t.length ≤ i then .ok d
  else if hasAt t i '=' then d.withLevel s (i + 1)
  else .error .form

def withSpan (d : Directive) (s t : List UInt8) (i : Nat) : Except DirectiveFault Directive :=
  match indexFrom? [']', '\x7b'] i t with
  | none => .error .form
  | some j => do
    let span ← slice s i j
    if hasAt t j ']' then afterSpan { d with span := some span } s t (j + 1)
    else
      match indexFrom? ['\x7d'] (j + 1) t with
      | none => .error .form
      | some k =>
        let text ← slice s (j + 1) k
        if text = "" then .error .form
        else
          let field ← fieldOf? text.toList
          if hasAt t (k + 1) ']' then
            let span := if span = "" then none else some span
            afterSpan { d with span := span, fields := [field] } s t (k + 2)
          else .error .form

def ofText? (text : String) : Except DirectiveFault Directive :=
  let trimmed := Text.trim text.toList
  let s := Text.utf8 text
  let t := Text.utf8 (String.ofList trimmed)
  match trimmed with
  | [] => .error .form
  | '[' :: _ => withSpan {} s t 1
  | c :: _ =>
    if !isFirst c then .error .form
    else
      match indexFrom? ['=', '['] 1 t with
      | none =>
        match Limit.ofText? text.toList with
        | some l => .ok { limit := l }
        | none => .ok { target := some text }
      | some i => do
        let d : Directive := { target := some (← slice s 0 i) }
        if hasAt t i '=' then d.withLevel s (i + 1) else d.withSpan s t (i + 1)

end Directive

end PlatformCore.Log
