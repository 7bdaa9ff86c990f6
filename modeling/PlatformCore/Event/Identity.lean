/-
  The text of an event's identity.

  An identity is written as its 32 digits in groups of 8, 4, 4, 4 and 12 between hyphens.
  Three further spellings are read: the digits without hyphens, the groups between braces,
  and the groups behind `urn:uuid:`.  Letters may be capital or small.
-/
import PlatformCore.Document.Json
import PlatformCore.Event

namespace PlatformCore.EventId

/-! ## Writing -/

def digitChars (ds : List (Fin 16)) : List Char := ds.map fun d => Json.hexDigit d.val

def grouped (cs : List Char) : List Char :=
  cs.take 8 ++ '-' :: ((cs.drop 8).take 4 ++ '-' :: ((cs.drop 12).take 4 ++
    '-' :: ((cs.drop 16).take 4 ++ '-' :: cs.drop 20)))

def text (i : EventId) : String := String.ofList (grouped (digitChars i.digits))

/-! ## Reading -/

def digit? (c : Char) : Option (Fin 16) :=
  match Text.digitValue? 16 c with
  | some n => if h : n < 16 then some ⟨n, h⟩ else none
  | none => none

def ofDigits? (cs : List Char) : Option EventId :=
  match cs.mapM digit? with
  | some ds => if h : ds.length = 32 then some ⟨ds, h⟩ else none
  | none => none

def ungrouped? (cs : List Char) : Option (List Char) :=
  if cs[8]? = some '-' ∧ cs[13]? = some '-' ∧ cs[18]? = some '-' ∧ cs[23]? = some '-' then
    some (cs.take 8 ++ ((cs.drop 9).take 4 ++ ((cs.drop 14).take 4 ++ ((cs.drop 19).take 4 ++
      cs.drop 24))))
  else none

def ofGroups? (cs : List Char) : Option EventId := do ofDigits? (← ungrouped? cs)

def urnHead : List Char := "urn:uuid:".toList

def ofText? (s : String) : Option EventId :=
  let cs := s.toList
  if cs.length = 32 then ofDigits? cs
  else if cs.length = 36 then ofGroups? cs
  else if cs.length = 38 then
    if cs.head? = some '\x7b' ∧ cs.getLast? = some '\x7d' then ofGroups? (cs.drop 1).dropLast
    else none
  else if cs.length = 45 then
    if urnHead.isPrefixOf (cs.map Char.toLower) then ofGroups? (cs.drop urnHead.length)
    else none
  else none

end PlatformCore.EventId
