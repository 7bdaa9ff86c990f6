/-
  Addresses of the Internet Protocol, as far as it takes to tell the loopback addresses.

  An address of version 4 is four decimal numbers up to 255, without leading zeros, between
  dots.  An address of version 6 is eight hexadecimal groups of one to four digits between
  colons; `::` stands for one or more groups of zero, and the last two groups may be written
  as an address of version 4.

  * `Address.ofText?` reads an address; nothing may stand before or after it;
  * `Address.isLoopback`: the addresses `127.x.y.z` and `::1`.
-/
import PlatformCore.Text.Numeral

namespace PlatformCore.Network

inductive Address where
  | v4 (a b c d : Nat)
  | v6 (groups : List Nat)
deriving DecidableEq, Repr

namespace Address

/-! ## Reading -/

/-- A number of one to `most` digits that no further digit follows, and the rest. -/
def number? (base most : Nat) (s : List Char) : Option (Nat × List Char) :=
  let digits := s.takeWhile (Text.isDigitOf base)
  if digits = [] ∨ most < digits.length then none
  else some (Text.numeralValue base digits, s.drop digits.length)

/-- A decimal number up to 255 without a leading zero, and the rest. -/
def byte? (s : List Char) : Option (Nat × List Char) := do
  let (n, rest) ← number? 10 3 s
  guard (n ≤ 255)
  guard (s.head? ≠ some '0' ∨ s.length = rest.length + 1)
  return (n, rest)

def after? (c : Char) : List Char → Option (List Char)
  | [] => none
  | d :: rest => if d = c then some rest else none

def bytes? (s : List Char) : Option ((Nat × Nat × Nat × Nat) × List Char) := do
  let (a, s) ← byte? s
  let (b, s) ← byte? (← after? '.' s)
  let (c, s) ← byte? (← after? '.' s)
  let (d, s) ← byte? (← after? '.' s)
  return ((a, b, c, d), s)

/-- What a run of groups came to: the groups, whether the last two were written as four bytes, and
    the rest. -/
structure Groups where
  groups : List Nat
  embedded : Bool
  rest : List Char

def readGroups (isFirst : Bool) : (limit : Nat) → List Char → Groups
  | 0, s => ⟨[], false, s⟩
  | n + 1, s =>
    match (if isFirst then some s else after? ':' s) with
    | none => ⟨[], false, s⟩
    | some t =>
      match (if n = 0 then none else bytes? t) with
      | some ((a, b, c, d), rest) => ⟨[a * 256 + b, c * 256 + d], true, rest⟩
      | none =>
        match number? 16 4 t with
        | none => ⟨[], false, s⟩
        | some (g, rest) =>
          let more := readGroups false n rest
          { more with groups := g :: more.groups }

def groups? (s : List Char) : Option (List Nat × List Char) := do
  let head := readGroups true 8 s
  if head.groups.length = 8 then return (head.groups, head.rest)
  guard (!head.embedded)
  let rest ← after? ':' head.rest
  let rest ← after? ':' rest
  let tail := readGroups true (7 - head.groups.length) rest
  let zeros := List.replicate (8 - head.groups.length - tail.groups.length) 0
  return (head.groups ++ zeros ++ tail.groups, tail.rest)

def ofText? (s : String) : Option Address :=
  match bytes? s.toList with
  | some ((a, b, c, d), rest) => if rest = [] then some (v4 a b c d) else none
  | none =>
    match groups? s.toList with
    | some (groups, []) => some (v6 groups)
    | _ => none

/-! ## Loopback -/

def isLoopback : Address → Bool
  | v4 a _ _ _ => a == 127
  | v6 groups => groups == [0, 0, 0, 0, 0, 0, 0, 1]

end Address

end PlatformCore.Network
