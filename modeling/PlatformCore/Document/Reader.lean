/-
  Readers: functions from a text to what stands at its start, and the rest.
-/

namespace PlatformCore

/-- A reader of what stands at the start of a text: gives it with the rest, or fails. -/
abbrev Reader (α : Type) := List Char → Option (α × List Char)

def dropWord? (w s : List Char) : Option (List Char) :=
  if w.isPrefixOf s then some (s.drop w.length) else none

theorem dropWord?_append (w s : List Char) : dropWord? w (w ++ s) = some s := by
  simp [dropWord?]

end PlatformCore
