/-
  Events as JSON.

  An event is written as an object with its five fields in a fixed order and without blanks.
  It is read from an object, in any order and with other fields among them, or from an array
  of the five values; only the originator of an object may be left out.

  * `Event.toJson` writes an event and `Event.ofJson?` reads one.
-/
import PlatformCore.Clock
import PlatformCore.Event.Identity

namespace PlatformCore.Event

/-! ## Writing -/

def jsonField (name : String) (value : List Char) : List Char :=
  Json.quoted name ++ ':' :: value

def jsonOriginator : Option ComponentId → List Char
  | some c => Json.quoted c.name
  | none => "null".toList

def jsonChars (e : Event) : List Char :=
  '\x7b' :: (jsonField "id" (Json.quoted e.id.text) ++
    ',' :: (jsonField "originator" (jsonOriginator e.originator) ++
    ',' :: (jsonField "event_type" (Json.quoted e.kind.name) ++
    ',' :: (jsonField "description" (Json.quoted e.description) ++
    ',' :: (jsonField "timestamp" (Json.integer e.timestamp.toInt) ++ ['\x7d'])))))

def toJson (e : Event) : String := String.ofList e.jsonChars

/-! ## Reading -/

def fieldNames : List String := ["id", "originator", "event_type", "description", "timestamp"]

def originator? : Node → Option (Option ComponentId)
  | .null => some none
  | n => (Node.text? n).map fun s => some ⟨s⟩

def timestamp? (n : Node) : Option Int64 := do
  let t ← n.integer?
  guard (Clock.InRange t)
  return Int64.ofInt t

def ofNode? (n : Node) : Option Event := do
  let fields ← n.fields? true fieldNames
  match n, fields with
  | .sequence _, [some id, some originator, some kind, some description, some timestamp] =>
    ofParts? id (some originator) kind description timestamp
  | .table _, [some id, originator, some kind, some description, some timestamp] =>
    ofParts? id originator kind description timestamp
  | _, _ => none
where
  ofParts? (id : Node) (originator : Option Node) (kind description timestamp : Node) :
      Option Event := do
    return {
      id := ← EventId.ofText? (← id.text?)
      originator := ← Node.fieldD originator? none originator
      kind := ⟨← kind.text?⟩
      description := ← description.text?
      timestamp := ← timestamp? timestamp }

def ofJson? (text : String) : Option Event := do ofNode? (← Json.read? text)

end PlatformCore.Event
