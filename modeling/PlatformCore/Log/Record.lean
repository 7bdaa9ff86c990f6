/-
  Log records.

  A record has a level, the part of the program it comes from, a message, and named fields.
  Levels are ordered by how much they let through: `error` the least, `trace` the most.
-/

namespace PlatformCore.Log

/-- How much a record matters. -/
inductive Level where
  | error
  | warn
  | info
  | debug
  | trace
deriving DecidableEq, Repr

namespace Level

def rank : Level → Nat
  | error => 1
  | warn => 2
  | info => 3
  | debug => 4
  | trace => 5

def name : Level → String
  | error => "ERROR"
  | warn => "WARN"
  | info => "INFO"
  | debug => "DEBUG"
  | trace => "TRACE"

end Level

inductive Value where
  | text (s : String)
  | number (n : Int)
  | bool (b : Bool)
deriving DecidableEq, Repr

structure Record where
  level : Level
  target : String
  message : String
  fields : List (String × Value) := []
deriving DecidableEq, Repr

end PlatformCore.Log
