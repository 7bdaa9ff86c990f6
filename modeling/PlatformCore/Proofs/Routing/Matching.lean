/-
  Who is told of an event, by the registrations that were made.

  The table finds the consumers of an event filter by filter.  What it finds are the registrations
  whose filter the event matches, each as often as it was made, and sorted: first the filters that
  name an originator and a kind, then those that name an originator only, then those that name a
  kind only, then those that name neither, and those of one class by age.

  * `flatMap_filter_eq_mergeSort`: picking out one class after the other is a stable sort;
  * `Filter.rank` is the class of a filter, and `pairwise_lookupOrder` says that filters are looked
    up in this order;
  * `under_insertAll`: what is found under one filter after any registrations;
  * `matching_insertAll`: what is found for an event.
-/
import Mathlib.Data.List.Basic
import PlatformCore.Routing.Table

namespace PlatformCore

/-! ## Sorting by classes -/

section

variable {α β : Type} [DecidableEq β] {key : α → β} {rank : β → Nat} {f : β} {fs : List β}
  {l : List α}

theorem filter_append_filter_ne (hs : l.Pairwise fun a b => rank (key a) ≤ rank (key b))
    (hl : ∀ a ∈ l, key a = f ∨ rank f < rank (key a)) :
    l.filter (key · = f) ++ l.filter (key · ≠ f) = l := by
  induction l with
  | nil => rfl
  | cons a l ih =>
    obtain ⟨ha, hs⟩ := List.pairwise_cons.1 hs
    obtain ⟨hfa, hl⟩ := List.forall_mem_cons.1 hl
    by_cases h : key a = f
    · rw [List.filter_cons_of_pos (by simpa using h), List.filter_cons_of_neg (by simpa using h),
        List.cons_append, ih hs hl]
    · -- behind the first element of another class there is none of this one
      have hne : ∀ b ∈ a :: l, key b ≠ f := by
        intro b hb hbf
        have hlt := hfa.resolve_left h
        rcases List.mem_cons.1 hb with rfl | hb
        · exact h hbf
        · have := ha b hb
          rw [hbf] at this
          omega
      rw [List.filter_eq_nil_iff.2 (by simpa using hne), List.nil_append,
        List.filter_eq_self.2 (by simpa using hne)]

theorem flatMap_filter_eq_self (hf : fs.Pairwise fun f g => rank f < rank g)
    (hs : l.Pairwise fun a b => rank (key a) ≤ rank (key b)) (hl : ∀ a ∈ l, key a ∈ fs) :
    fs.flatMap (fun f => l.filter (key · = f)) = l := by
  induction fs generalizing l with
  | nil =>
    cases l with
    | nil => rfl
    | cons a l => exact absurd (hl a List.mem_cons_self) List.not_mem_nil
  | cons f fs ih =>
    obtain ⟨hmin, hf⟩ := List.pairwise_cons.1 hf
    have hrest : fs.flatMap (fun g => (l.filter (key · ≠ f)).filter (key · = g)) =
        l.filter (key · ≠ f) := by
      refine ih hf (hs.filter _) fun a ha => ?_
      obtain ⟨ha, hne⟩ := List.mem_filter.1 ha
      exact (List.mem_cons.1 (hl a ha)).resolve_left (by simpa using hne)
    have hclass : ∀ g ∈ fs, (l.filter (key · ≠ f)).filter (key · = g) = l.filter (key · = g) := by
      intro g hg
      rw [List.filter_filter]
      refine List.filter_congr fun a _ => ?_
      have hgf : g ≠ f := fun h => Nat.lt_irrefl _ (h ▸ hmin g hg)
      by_cases h : key a = g <;> simp [h, hgf]
    rw [List.flatMap_cons, ← List.flatMap_congr hclass, hrest]
    refine filter_append_filter_ne hs fun a ha => ?_
    exact (List.mem_cons.1 (hl a ha)).imp_right (hmin _)

theorem filter_mergeSort :
    (l.mergeSort fun a b => rank (key a) ≤ rank (key b)).filter (key · = f) =
      l.filter (key · = f) := by
  have hclass : (l.filter (key · = f)).Pairwise
      fun a b => decide (rank (key a) ≤ rank (key b)) = true := by
    refine List.pairwise_of_forall_mem_list fun a ha b hb => ?_
    have ha : key a = f := by simpa using (List.mem_filter.1 ha).2
    have hb : key b = f := by simpa using (List.mem_filter.1 hb).2
    simp [ha, hb]
  have hsub := (List.sublist_mergeSort
    (by simpa using fun a b c => Nat.le_trans) (by simpa using fun a b => Nat.le_total _ _)
    hclass List.filter_sublist).filter (key · = f)
  rw [List.filter_filter] at hsub
  simp only [Bool.and_self] at hsub
  exact (hsub.eq_of_length ((List.mergeSort_perm _ _).filter _).length_eq.symm).symm

/-- **Picking out one class after the other is a stable sort.** -/
theorem flatMap_filter_eq_mergeSort (hf : fs.Pairwise fun f g => rank f < rank g)
    (hl : ∀ a ∈ l, key a ∈ fs) :
    fs.flatMap (fun f => l.filter (key · = f)) =
      l.mergeSort fun a b => rank (key a) ≤ rank (key b) := by
  have hs := @List.pairwise_mergeSort α (fun a b => rank (key a) ≤ rank (key b))
    (by simpa using fun a b c => Nat.le_trans) (by simpa using fun a b => Nat.le_total _ _) l
  simp only [decide_eq_true_eq] at hs
  rw [← flatMap_filter_eq_self hf hs fun a ha => hl a (List.mem_mergeSort.1 ha)]
  exact List.flatMap_congr fun f _ => filter_mergeSort.symm

end

/-! ## Classes of filters -/

/-- The class of a filter: the more it names, the lower, and an originator counts for more than a
    kind. -/
def Filter.rank : Filter → Nat
  | ⟨some _, some _⟩ => 0
  | ⟨some _, none⟩ => 1
  | ⟨none, some _⟩ => 2
  | ⟨none, none⟩ => 3

theorem Filter.pairwise_lookupOrder (e : Event) :
    (lookupOrder e).Pairwise fun f g => f.rank < g.rank := by
  rcases ho : e.originator with _ | o <;> simp [lookupOrder, ho, rank]

theorem Filter.originator_eq_none {f : Filter} {e : Event} (h : f.Matches e)
    (he : e.originator = none) : f.originator = none := by
  rcases ho : f.originator with _ | o
  · rfl
  · have := h.1 o ho
    rw [he] at this
    cases this

/-! ## What is found -/

namespace Table

variable {κ : Type} {t : Table κ} {f : Filter} {e : Event} {r : Filter × κ}
  {rs ss : List (Filter × κ)}

/-- Makes registrations one after the other. -/
def insertAll (t : Table κ) (rs : List (Filter × κ)) : Table κ :=
  rs.foldl (fun t r => t.insert r.1 r.2) t

theorem insertAll_cons : t.insertAll (r :: rs) = (t.insert r.1 r.2).insertAll rs := rfl

theorem insertAll_append : t.insertAll (rs ++ ss) = (t.insertAll rs).insertAll ss :=
  List.foldl_append

theorem under_insertAll :
    (t.insertAll rs).under f = t.under f ++ (rs.filter (·.1 = f)).map Prod.snd := by
  induction rs generalizing t with
  | nil => exact (List.append_nil _).symm
  | cons r rs ih =>
    rw [insertAll_cons, ih, under_insert]
    by_cases h : r.1 = f <;> simp [h]

theorem size_insertAll : (t.insertAll rs).size = t.size + rs.length := by
  induction rs generalizing t with
  | nil => rfl
  | cons r rs ih =>
    rw [insertAll_cons, ih, size_insert, List.length_cons]
    omega

theorem mem_matching_insertAll {c : κ} (h : (f, c) ∈ rs) (hm : f.Matches e) :
    c ∈ (t.insertAll rs).matching e := by
  refine mem_matching.2 ⟨f, ?_, hm⟩
  rw [under_insertAll]
  refine List.mem_append_right _ (List.mem_map.2 ⟨(f, c), ?_, rfl⟩)
  simpa using h

/-- The registrations that an event matches, in the order in which the table finds them. -/
theorem flatMap_lookupOrder :
    (Filter.lookupOrder e).flatMap (fun f => rs.filter (·.1 = f)) =
      (rs.filter (·.1.Matches e)).mergeSort fun r s => r.1.rank ≤ s.1.rank := by
  rw [← flatMap_filter_eq_mergeSort (Filter.pairwise_lookupOrder e)]
  · refine List.flatMap_congr fun f hf => ?_
    rw [List.filter_filter]
    refine List.filter_congr fun r _ => ?_
    by_cases h : r.1 = f
    · simp [h, Filter.mem_lookupOrder.1 hf]
    · simp [h]
  · intro r hr
    rw [Filter.mem_lookupOrder]
    simpa using (List.mem_filter.1 hr).2

theorem matching_eq_mergeSort :
    (empty.insertAll rs).matching e =
      ((rs.filter (·.1.Matches e)).mergeSort fun r s => r.1.rank ≤ s.1.rank).map Prod.snd := by
  rw [← flatMap_lookupOrder, List.map_flatMap, matching]
  refine List.flatMap_congr fun f _ => ?_
  rw [under_insertAll, under_empty, List.nil_append]

theorem length_matching_insertAll_le :
    ((empty.insertAll rs).matching e).length ≤ rs.length := by
  rw [matching_eq_mergeSort, List.length_map, List.length_mergeSort]
  exact List.length_filter_le _ _

/-- For an event without an originator only the registrations that name none count. -/
theorem matching_filter_originator (he : e.originator = none) :
    (empty.insertAll (rs.filter (·.1.originator = none))).matching e =
      (empty.insertAll rs).matching e := by
  have hm : ∀ r ∈ rs, (decide (r.1.Matches e) && decide (r.1.originator = none)) =
      decide (r.1.Matches e) := by
    intro r _
    by_cases h : r.1.Matches e
    · simp [h, Filter.originator_eq_none h he]
    · simp [h]
  rw [matching_eq_mergeSort, matching_eq_mergeSort, List.filter_filter, List.filter_congr hm]

/-- **Who is told of an event.**  After any registrations in an empty table, the consumers told of
    an event are those of the registrations whose filter it matches, sorted by class, and within a
    class in the order in which they were registered; every registration counts once, however often
    the consumer was registered.  For an event without an originator the registrations that name one
    might as well not have been made.  The size of the table is the number of registrations. -/
theorem matching_insertAll (rs : List (Filter × κ)) (e : Event) :
    ((empty.insertAll rs).matching e =
      ((rs.filter (·.1.Matches e)).mergeSort fun r s => r.1.rank ≤ s.1.rank).map Prod.snd) ∧
    ((empty.insertAll rs).matching e).Perm ((rs.filter (·.1.Matches e)).map Prod.snd) ∧
    (e.originator = none → (empty.insertAll rs).matching e =
      (empty.insertAll (rs.filter (·.1.originator = none))).matching e) ∧
    (empty.insertAll rs).size = rs.length := by
  refine ⟨matching_eq_mergeSort, ?_, ?_, ?_⟩
  · rw [matching_eq_mergeSort]
    exact (List.mergeSort_perm _ _).map _
  · intro he
    exact (matching_filter_originator he).symm
  · rw [size_insertAll]
    exact Nat.zero_add _

/-- Registrations of all four classes, the least specific first, and one of them twice. -/
example :
    let o : ComponentId := ⟨"o"⟩
    let k : EventKind := ⟨"k"⟩
    ((empty : Table Nat).insertAll
      [(⟨none, none⟩, 0), (⟨none, some k⟩, 1), (⟨some o, none⟩, 2), (⟨some o, some k⟩, 3),
        (⟨none, none⟩, 0)]).matching { originator := some o, kind := k, description := "" } =
      [3, 2, 1, 0, 0] := by
  decide

end Table

end PlatformCore
