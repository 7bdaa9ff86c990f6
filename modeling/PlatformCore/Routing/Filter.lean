/-
  Filters: which events a subscription asks for.

  A filter names an originator, a kind, both or neither; what it does not name it leaves
  open.

  * `Filter.Matches f e` says that event `e` falls under `f`;
  * `Filter.lookupOrder e` lists the filters under which `e` falls, from the most to the
    least specific (`mem_lookupOrder`).  An event without an originator falls under no
    filter that names one.
-/
import PlatformCore.Event

namespace PlatformCore

/-- What a subscription asks for; what it does not name it leaves open. -/
structure Filter where
  originator : Option ComponentId := none
  kind : Option EventKind := none
deriving DecidableEq, Repr

namespace Filter

/-- The filter under which every event falls. -/
def all : Filter := {}

/-- An event falls under a filter if it agrees with all that the filter names. -/
def Matches (f : Filter) (e : Event) : Prop :=
  (∀ o ∈ f.originator, e.originator = some o) ∧ (∀ k ∈ f.kind, e.kind = k)

instance (f : Filter) (e : Event) : Decidable (f.Matches e) :=
  inferInstanceAs (Decidable ((∀ o ∈ f.originator, _) ∧ (∀ k ∈ f.kind, _)))

/-- The filters under which an event falls, the more specific first. -/
def lookupOrder (e : Event) : List Filter :=
  (match e.originator with
    | some o => [⟨some o, some e.kind⟩, ⟨some o, none⟩]
    | none => []) ++
  [⟨none, some e.kind⟩, ⟨none, none⟩]

/-- The filters looked up for an event are those under which it falls. -/
theorem mem_lookupOrder {f : Filter} {e : Event} : f ∈ lookupOrder e ↔ f.Matches e := by
  obtain ⟨o, k⟩ := f
  cases ho : e.originator <;> cases o <;> cases k <;>
    simp [lookupOrder, Matches, ho, eq_comm]

end Filter

end PlatformCore
