/-
  Sets of code points as runs.

  A set is given by the starts and ends of its runs, in increasing order: a number lies in
  the set if it is at least a start and less than the end that follows.
-/

namespace PlatformCore.Text

/-- Whether `n` lies in one of the runs `start, end, start, end, …` (ends excluded). -/
def liesInRun (n : Nat) : List Nat → Bool
  | start :: stop :: rest =>
    if n < start then false else if n < stop then true else liesInRun n rest
  | _ => false

end PlatformCore.Text
