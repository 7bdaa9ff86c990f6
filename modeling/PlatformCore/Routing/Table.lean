/-
  The routing table: who is to be told of an event.

  Consumers are kept under the filter with which they were registered, those of one filter in the
  order in which they came.  None is ever removed, and a consumer may be registered any number of
  times.

  * `Table.under t f` are the consumers registered under `f`, and `under_insert` says what a
    registration does to them;
  * `Table.matching t e` is the list of consumers to be told of `e`, in the order in which
    they are told: by filter as in `Filter.lookupOrder`, and under one filter by age;
  * `Table.size` counts the registrations (`size_insert`).
-/
import PlatformCore.Registry
import PlatformCore.Routing.Filter

namespace PlatformCore

variable {κ : Type}

/-- Registrations of consumers. -/
structure Table (κ : Type) where
  /-- The consumers registered under each filter, the oldest registration first. -/
  entries : Registry Filter (List κ) := ∅

namespace Table

def empty : Table κ := {}

/-- The consumers registered under one filter, the oldest registration first. -/
def under (t : Table κ) (f : Filter) : List κ := (t.entries.get? f).getD []

def insert (t : Table κ) (f : Filter) (c : κ) : Table κ := ⟨t.entries.insert f (t.under f ++ [c])⟩

def size (t : Table κ) : Nat := t.entries.sum List.length

def isEmpty (t : Table κ) : Bool := t.size == 0

/-- The consumers to be told of an event, in the order in which they are told. -/
def matching (t : Table κ) (e : Event) : List κ := (Filter.lookupOrder e).flatMap t.under

variable {t : Table κ} {f g : Filter} {c d : κ} {e : Event}

@[simp] theorem under_empty : (empty : Table κ).under f = [] := rfl

theorem under_insert : (t.insert f c).under g = t.under g ++ if f = g then [c] else [] := by
  rw [under, insert, Registry.get?_insert]
  by_cases h : g = f
  · rw [if_pos h, if_pos h.symm, h, Option.getD_some]
  · rw [if_neg h, if_neg (Ne.symm h), List.append_nil, under]

/-- A registration takes the place of those under its filter, with one consumer more. -/
@[simp, grind =] theorem size_insert : (t.insert f c).size = t.size + 1 := by
  have h := @Registry.sum_insert _ _ _ t.entries f (t.under f ++ [c]) List.length
  have hu : ((t.entries.get? f).map List.length).getD 0 = (t.under f).length := by
    rw [under]
    cases t.entries.get? f <;> rfl
  rw [hu, List.length_append, List.length_singleton] at h
  simp only [size, insert]
  omega

theorem mem_matching : c ∈ t.matching e ↔ ∃ f, c ∈ t.under f ∧ f.Matches e := by
  simp only [matching, List.mem_flatMap, Filter.mem_lookupOrder]
  exact ⟨fun ⟨f, m, h⟩ => ⟨f, h, m⟩, fun ⟨f, h, m⟩ => ⟨f, m, h⟩⟩

end Table

end PlatformCore
