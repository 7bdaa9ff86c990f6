/-
  Events as JSON, there and back.

  * `EventId.ofText?_text`: an identity is read as it was written;
  * `Event.fields` are the fields of a written event with the values they are read as, and
    `Event.ofJson?_toJson` says that every event is read as it was written;
  * `Event.round_trip_of_toJson`: whatever text an event was read from, it is written as one that
    spells it again, and texts spell the same event if and only if they are written alike.
-/
import PlatformCore.Event.Codec
import PlatformCore.Proofs.Document.Json

namespace PlatformCore

/-! ## Identities -/

namespace EventId

variable {cs : List Char} {i : EventId}

theorem digit?_hexDigit : ∀ d : Fin 16, digit? (Json.hexDigit d.val) = some d := by decide

theorem ofDigits?_digitChars (i : EventId) : ofDigits? (digitChars i.digits) = some i := by
  have hm : ∀ ds : List (Fin 16), (digitChars ds).mapM digit? = some ds := by
    intro ds
    induction ds with
    | nil => rfl
    | cons d ds ih =>
      rw [show digitChars (d :: ds) = Json.hexDigit d.val :: digitChars ds from rfl, List.mapM_cons,
        digit?_hexDigit, ih]
      rfl
  simp [ofDigits?, hm, i.length_digits]

theorem ungrouped?_groups {a b c d e : List Char} (ha : a.length = 8) (hb : b.length = 4)
    (hc : c.length = 4) (hd : d.length = 4) :
    ungrouped? (a ++ '-' :: (b ++ '-' :: (c ++ '-' :: (d ++ '-' :: e)))) =
      some (a ++ (b ++ (c ++ (d ++ e)))) := by
  rw [ungrouped?, if_pos (by simp [List.getElem?_append, ha, hb, hc, hd])]
  simp (disch := omega) [List.drop_append, List.drop_of_length_le, ha, hb, hc, hd]

theorem ungrouped?_grouped (h : cs.length = 32) : ungrouped? (grouped cs) = some cs := by
  rw [grouped, ungrouped?_groups (by simp [h]) (by simp [h]) (by simp [h]) (by simp [h])]
  have hgroup : ∀ n m, (cs.drop n).take m ++ cs.drop (n + m) = cs.drop n := by
    intro n m
    rw [← List.drop_drop, List.take_append_drop]
  rw [hgroup 16 4, hgroup 12 4, hgroup 8 4, List.take_append_drop]

theorem length_grouped (h : cs.length = 32) : (grouped cs).length = 36 := by
  simp [grouped, h]

/-- **An identity is read as it was written.** -/
theorem ofText?_text (i : EventId) : ofText? i.text = some i := by
  have hlen : (digitChars i.digits).length = 32 := by
    rw [digitChars, List.length_map, i.length_digits]
  simp only [ofText?, text, String.toList_ofList, length_grouped hlen]
  simp [ofGroups?, ungrouped?_grouped hlen, ofDigits?_digitChars]

end EventId

/-! ## Events -/

namespace Event

def originatorNode : Option ComponentId → Node
  | some c => .text (some c.name)
  | none => .null

theorem spells_originator (o : Option ComponentId) :
    Json.Spells (jsonOriginator o) (originatorNode o) := by
  rcases o with _ | c
  · exact Json.spells_null
  · exact Json.spells_quoted c.name

def fields (e : Event) : List Json.Field :=
  [⟨"id", _, _, Json.spells_quoted e.id.text⟩,
    ⟨"originator", _, _, spells_originator e.originator⟩,
    ⟨"event_type", _, _, Json.spells_quoted e.kind.name⟩,
    ⟨"description", _, _, Json.spells_quoted e.description⟩,
    ⟨"timestamp", _, _, Json.spells_integer e.timestamp.toInt⟩]

theorem jsonChars_eq (e : Event) : e.jsonChars = '\x7b' :: Json.Field.allChars e.fields := rfl

theorem read?_toJson (e : Event) :
    Json.read? e.toJson = some (.table (e.fields.map Json.Field.entry)) := by
  rw [Json.read?, toJson, String.toList_ofList, jsonChars_eq]
  have h := Json.Field.value?_table (Json.Field.allChars e.fields).length e.fields []
  rw [List.append_nil] at h
  rw [List.length_cons, h]
  rfl

theorem inRange_toInt (t : Int64) : Clock.InRange t.toInt := by
  have hl := t.le_toInt
  have hr := t.toInt_lt
  simp only [Clock.InRange, Clock.earliest, Clock.latest]
  omega

theorem timestamp?_toInt (t : Int64) : timestamp? (.integer t.toInt) = some t := by
  change (guard (Clock.InRange t.toInt) >>= fun _ => some (Int64.ofInt t.toInt)) = some t
  rw [Json.guard_eq_some (inRange_toInt t), Int64.ofInt_toInt]
  rfl

theorem originator?_originatorNode (o : Option ComponentId) :
    originator? (originatorNode o) = some o := by
  rcases o with _ | c <;> rfl

theorem ofNode?_fields (e : Event) :
    ofNode? (.table (e.fields.map Json.Field.entry)) = some e := by
  have hf : Node.fields? true fieldNames (.table (e.fields.map Json.Field.entry)) =
      some (e.fields.map fun f => some f.node) := rfl
  simp only [ofNode?, hf, Option.bind_eq_bind, Option.bind_some]
  change ofNode?.ofParts? _ _ _ _ _ = _
  simp [ofNode?.ofParts?, Node.text?, Node.fieldD, EventId.ofText?_text, timestamp?_toInt,
    originator?_originatorNode]

/-- **An event is read as it was written.** -/
theorem ofJson?_toJson (e : Event) : ofJson? e.toJson = some e := by
  rw [ofJson?, read?_toJson, Option.bind_eq_bind, Option.bind_some, ofNode?_fields]

/-- **Events as JSON, there and back.**  Every event is read as it was written.  An event that was
    read from any text is written as one that spells it again, so two texts spell the same event if
    and only if what they spell is written alike. -/
theorem round_trip_of_toJson :
    (∀ e : Event, ofJson? e.toJson = some e) ∧
    (∀ t e, ofJson? t = some e → ofJson? e.toJson = some e) ∧
    ∀ t₁ t₂ e₁ e₂, ofJson? t₁ = some e₁ → ofJson? t₂ = some e₂ →
      (e₁ = e₂ ↔ e₁.toJson = e₂.toJson) := by
  refine ⟨ofJson?_toJson, fun _ e _ => ofJson?_toJson e, fun _ _ e₁ e₂ _ _ => ?_⟩
  constructor
  · rintro rfl
    rfl
  · intro h
    have hr := ofJson?_toJson e₁
    rw [h, ofJson?_toJson] at hr
    exact (Option.some.inj hr).symm

/-- An event as an array, with its identity as a name and with escapes. -/
def arrayForm : String :=
  "[\"URN:UUID:00000000-0000-0000-0000-0000000000FF\",null,\"a\\u0062\",\"\\ud83d\\ude00\\\"\",-1]"

/-- The same event as an object, in another order and with a field more. -/
def objectForm : String :=
  " \x7b\"timestamp\": -1, \"x\": [[]], \"description\": \"😀\\\"\", \"event_type\": \"ab\", " ++
    "\"id\": \"000000000000000000000000000000ff\" \x7d"

theorem round_trip_of_toJson_forms :
    ∃ e₁ e₂, ofJson? arrayForm = some e₁ ∧ ofJson? objectForm = some e₂ ∧ e₁.toJson = e₂.toJson ∧
      ofJson? e₁.toJson = some e₁ := by
  obtain ⟨e₁, h₁⟩ : ∃ e, ofJson? arrayForm = some e :=
    Option.isSome_iff_exists.1 (by decide +kernel)
  have h₂ : ofJson? objectForm = some e₁ := h₁ ▸ (by decide +kernel)
  obtain ⟨-, hback, halike⟩ := round_trip_of_toJson
  exact ⟨e₁, e₁, h₁, h₂, (halike _ _ _ _ h₁ h₂).1 rfl, hback _ _ h₁⟩

end Event

end PlatformCore
