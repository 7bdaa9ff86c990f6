/-
  Documents: the values that a data format can spell, whatever the format.

  * `Node.fields?` finds the named fields of a record in a node: by name in a table, by
    position in a sequence;
  * the readers `Node.text?`, `Node.flag?`, `Node.integer?` and `Node.items?` accept one kind
    of node each.
-/

namespace PlatformCore

/-- A value of a document. -/
inductive Node where
  | null
  | bool (b : Bool)
  | integer (n : Int)
  /-- A string; without a text if its escapes spell none. -/
  | text (s : Option String)
  | sequence (items : List Node)
  /-- A table; the key of an entry is without a text if its escapes spell none. -/
  | table (entries : List (Option String × Node))
  /-- A number with a fraction, a date, or another value that no field takes. -/
  | other

instance : Inhabited Node := ⟨.null⟩

namespace Node

/-! ## Values of one kind -/

def text? : Node → Option String
  | text s => s
  | _ => none

def flag? : Node → Option Bool
  | bool b => some b
  | _ => none

def integer? : Node → Option Int
  | integer n => some n
  | _ => none

def natural? (bound : Nat) : Node → Option Nat
  | integer n => if 0 ≤ n ∧ n < bound then some n.toNat else none
  | _ => none

def items? {α : Type} (read : Node → Option α) : Node → Option (List α)
  | sequence items => items.mapM read
  | _ => none

/-! ## Records -/

/-- The value under a name, if there is one; fails if there are two. -/
def valueUnder? (entries : List (Option String × Node)) (name : String) : Option (Option Node) :=
  match entries.filter fun e => e.1 = some name with
  | [] => some none
  | [e] => some (some e.2)
  | _ => none

/-- The values of the named fields of a record, in the order of the names: from the entries of
    a table, of which others do not matter, or from the places of a sequence.  If `exact`, a
    sequence may not be longer than the names. -/
def fields? (exact : Bool) (names : List String) : Node → Option (List (Option Node))
  | table entries =>
    if entries.any (·.1.isNone) then none else names.mapM (valueUnder? entries)
  | sequence items =>
    if exact && names.length < items.length then none
    else some (names.zipIdx.map fun n => items[n.2]?)
  | _ => none

def fieldD {α : Type} (read : Node → Option α) (default : α) : Option Node → Option α
  | some n => read n
  | none => some default

end Node

end PlatformCore
