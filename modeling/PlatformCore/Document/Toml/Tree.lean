/-
  The tree that TOML statements build.

  A table comes about in one of three ways: by a header of its own, by a header of a table
  inside it, or by a dotted key.  Which of them decides who may add to it: a header may claim a
  table that so far only stood on the way to another, and dotted keys go on in tables that
  dotted keys made.

  * `Entries.within` goes down a path, making the tables that are not there;
  * `Entries.set?` puts a value under a new key, `Entries.claim?` is what a header does, and
    `Entries.extend?` adds a table to a list of tables;
  * `Entries.node` is the document that a tree stands for.
-/
import PlatformCore.Document.Node
import PlatformCore.Document.Toml.Word

namespace PlatformCore.Toml

/-- How a table came about. -/
inductive Origin where
  | header
  /-- By the header of a table inside it. -/
  | onTheWay
  | dotted
deriving DecidableEq, Repr

/-- What stands under a key. -/
inductive Item where
  | value (v : Node)
  | table (origin : Origin) (entries : List (String × Item))
  /-- A list of tables, each with its own header; later statements are about the last. -/
  | tables (earlier : List (List (String × Item))) (last : List (String × Item))

abbrev Entries := List (String × Item)

/-- Who goes down a path. -/
inductive Descent where
  | header
  | dotted
deriving DecidableEq, Repr

namespace Descent

def origin : Descent → Origin
  | header => .onTheWay
  | dotted => .dotted

def mayEnter : Descent → (isLast : Bool) → Origin → Bool
  | header, _, _ => true
  | dotted, false, o => o ≠ .header
  | dotted, true, o => o = .dotted

/-- Whether the last table of a list may be entered, and be the last on the way. -/
def mayEnterList : Descent → (isLast : Bool) → Bool
  | header, _ => true
  | dotted, isLast => !isLast

end Descent

namespace Entries

def alter (k : String) (f : Option Item → Option Item) : Entries → Option Entries
  | [] => (f none).map fun i => [(k, i)]
  | e :: es =>
    if e.1 = k then (f (some e.2)).map fun i => (k, i) :: es else (alter k f es).map (e :: ·)

def within (d : Descent) (f : Entries → Option Entries) : List String → Entries → Option Entries
  | [], es => f es
  | k :: ks, es =>
    alter k (fun
      | none => (within d f ks []).map (.table d.origin)
      | some (.table o es) =>
        if d.mayEnter ks.isEmpty o then (within d f ks es).map (.table o) else none
      | some (.tables earlier last) =>
        if d.mayEnterList ks.isEmpty then (within d f ks last).map (.tables earlier) else none
      | some (.value _) => none) es

/-- Puts a value under a key that is not there yet. -/
def set? (p : Path) (v : Node) (es : Entries) : Option Entries :=
  within .dotted (alter p.key fun
    | none => some (.value v)
    | some _ => none) p.parents es

/-- Makes the table of a header, or claims one that stood on the way to another. -/
def claim? (p : Path) (es : Entries) : Option Entries :=
  within .header (alter p.key fun
    | none => some (.table .header [])
    | some (.table .onTheWay es) => some (.table .header es)
    | _ => none) p.parents es

/-- Adds a table to a list of tables, or begins one. -/
def extend? (p : Path) (es : Entries) : Option Entries :=
  within .header (alter p.key fun
    | none => some (.tables [] [])
    | some (.tables earlier last) => some (.tables (earlier ++ [last]) [])
    | _ => none) p.parents es

end Entries

mutual

def Item.node : Item → Node
  | .value v => v
  | .table _ es => .table (fieldsOf es)
  | .tables earlier last => .sequence (tablesOf earlier ++ [.table (fieldsOf last)])

def fieldsOf : List (String × Item) → List (Option String × Node)
  | [] => []
  | (k, i) :: es => (some k, i.node) :: fieldsOf es

def tablesOf : List (List (String × Item)) → List Node
  | [] => []
  | es :: rest => .table (fieldsOf es) :: tablesOf rest

end

def Entries.node (es : Entries) : Node := .table (fieldsOf es)

end PlatformCore.Toml
