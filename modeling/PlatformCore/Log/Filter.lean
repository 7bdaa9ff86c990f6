/-
  Log filters: lists of directives.

  Directives that name neither a span nor a value of a field are fixed: of those that care for
  a record, the one that says most about it decides.  The others, and those that name fields,
  look at the spans in which a record arises: within a span that they care for they let records
  through up to their limit, wherever these come from.  Of directives that ask for the same only
  the last counts.

  * `Filter.ofText?` reads a filter: directives with commas between them;
  * `Filter.admits` tells whether a record is written.
-/
import PlatformCore.Log.Directive

namespace PlatformCore.Log

/-! ## Spans -/

/-- A stretch of work, and what is known of it. -/
structure Span where
  name : String
  target : String
  fields : List (String × Value) := []
deriving DecidableEq, Repr

/-! ## What a directive cares for -/

namespace Directive

/-- Whether a directive lets records through without looking at spans. -/
def isFixed (d : Directive) : Bool := d.span.isNone && d.fields.all (·.value.isNone)

def looksAtSpans (d : Directive) : Bool := d.span.isSome || !d.fields.isEmpty

/-- Whether the name of a part of the program begins as asked for. -/
def caresForTarget (d : Directive) (target : String) : Bool := d.target.all (target.startsWith ·)

def caresFor (d : Directive) (r : Record) : Bool :=
  d.caresForTarget r.target &&
    d.fields.all fun f => f.name == "message" || r.fields.any (·.1 == f.name)

/-- Whether a value is the one asked for.  The values of the fields of spans are truth values and
    natural numbers. -/
def hasValue (f : FieldPattern) (v : Value) : Bool :=
  match f.value, v with
  | none, _ => true
  | some (.flag a), .bool b => a == b
  | some (.count m), .number n => n == m
  | some _, _ => false

def caresForSpan (d : Directive) (s : Span) : Bool :=
  d.looksAtSpans && d.caresForTarget s.target && d.span.all (· == s.name) &&
    d.fields.all fun f => s.fields.any fun e => e.1 == f.name && hasValue f e.2

/-- How much a directive says: the length of the target, then the number of fields. -/
def weight (d : Directive) : List Nat :=
  [(d.target.map (·.utf8ByteSize + 1)).getD 0, d.fields.length]

/-- Whether two directives ask for the same, whatever they let through. -/
def asksLike (a b : Directive) : Bool :=
  a.target == b.target && a.span == b.span && a.fields == b.fields

def names (d : Directive) : List String := d.target.toList ++ d.fields.map (·.name)

/-- Whether a directive comes before another: if it says more, and if it says as much and its
    names come later in the order of names. -/
def precedes (a b : Directive) : Bool :=
  b.weight < a.weight || (a.weight == b.weight && b.names < a.names)

end Directive

/-! ## Filters -/

/-- A filter: its directives, in the order of the text. -/
structure Filter where
  directives : List Directive
deriving DecidableEq, Repr

namespace Filter

/-- The filter that a text spells.  Empty parts of the text do not matter; a text without any
    other lets errors through. -/
def ofText? (text : String) : Except DirectiveFault Filter := do
  let parts := (text.toList.splitOnP (· = ',')).filter (· ≠ [])
  let ds ← parts.mapM fun p => Directive.ofText? (String.ofList p)
  return ⟨if ds = [] then [{ limit := some .error }] else ds⟩

def fixed (f : Filter) : List Directive :=
  let ds := f.directives.filter (·.isFixed)
  ds.filter (!·.looksAtSpans) ++ ds.filter (·.looksAtSpans)

/-- The fixed directive that decides about a record: none that cares for the record says more,
    and of those that say as much it is the last. -/
def deciding? (f : Filter) (r : Record) : Option Directive :=
  (f.fixed.filter (·.caresFor r)).foldl (fun best d =>
    match best with
    | some b => if b.precedes d then some b else some d
    | none => some d) none

/-- Directives without those that are followed by one that asks for the same. -/
def latest : List Directive → List Directive
  | [] => []
  | d :: ds => if ds.any (d.asksLike ·) then latest ds else d :: latest ds

def watching (f : Filter) : List Directive := latest (f.directives.filter (·.looksAtSpans))

def admits (f : Filter) (spans : List Span) (r : Record) : Bool :=
  (f.watching.any fun d => d.limit.admits r.level && spans.any (d.caresForSpan ·)) ||
    (f.deciding? r).any (·.limit.admits r.level)

end Filter

end PlatformCore.Log
