/-
  Registries: finite maps kept as a list of entries, each key at most once.

  * `get? k` is the value under a key, `insert` sets it, `erase` removes it and `assign` does either;
  * `get?_insert`, `get?_erase` and `get?_assign` say what they do to every key;
  * `insert_insert` and `erase_insert` say that only the last word on a key counts;
  * `filter` keeps the values with a property, and `get?_filter` says what it does to every key;
  * `mem_keys_iff` says that the keys are those with a value;
  * `sum_insert`, `sum_erase` and `sum_assign` say what they do to a sum over the values.
-/

namespace PlatformCore

/-- A finite map from `α` to `β`. -/
structure Registry (α β : Type) [DecidableEq α] where
  /-- The entries, in the order in which their keys were first set. -/
  entries : List (α × β)
  nodup_keys : (entries.map Prod.fst).Nodup

namespace Registry

variable {α β : Type} [DecidableEq α]

def empty : Registry α β := ⟨[], List.nodup_nil⟩

instance : EmptyCollection (Registry α β) := ⟨empty⟩

instance : Inhabited (Registry α β) := ⟨empty⟩

def size (r : Registry α β) : Nat := r.entries.length

def keys (r : Registry α β) : List α := r.entries.map Prod.fst

def values (r : Registry α β) : List β := r.entries.map Prod.snd

def sum (r : Registry α β) (g : β → Nat) : Nat := r.entries.foldr (fun e n => g e.2 + n) 0

/-- The value of the first entry with key `k`. -/
def find (k : α) : List (α × β) → Option β
  | [] => none
  | e :: es => if k = e.1 then some e.2 else find k es

def get? (r : Registry α β) (k : α) : Option β := find k r.entries

/-- The entries with the value under `k` set to `v`: in place if `k` has one. -/
def put (k : α) (v : β) : List (α × β) → List (α × β)
  | [] => [(k, v)]
  | e :: es => if e.1 = k then (k, v) :: es else e :: put k v es

theorem mem_map_fst_put {k a : α} {v : β} {es : List (α × β)} :
    a ∈ (put k v es).map Prod.fst ↔ a = k ∨ a ∈ es.map Prod.fst := by
  induction es with
  | nil => simp [put]
  | cons e es ih =>
    by_cases h : e.1 = k
    · simp [put, h]
    · simp only [put, h, if_false, List.map_cons, List.mem_cons, ih]
      grind

theorem nodup_put {k : α} {v : β} {es : List (α × β)} (h : (es.map Prod.fst).Nodup) :
    ((put k v es).map Prod.fst).Nodup := by
  induction es with
  | nil => simp [put]
  | cons e es ih =>
    obtain ⟨h₁, h₂⟩ := List.nodup_cons.1 h
    by_cases hk : e.1 = k
    · simp only [put, hk, if_true, List.map_cons, List.nodup_cons]
      exact ⟨hk ▸ h₁, h₂⟩
    · simp only [put, hk, if_false, List.map_cons, List.nodup_cons]
      exact ⟨fun hm => (mem_map_fst_put.1 hm).elim hk h₁, ih h₂⟩

def insert (r : Registry α β) (k : α) (v : β) : Registry α β :=
  ⟨put k v r.entries, nodup_put r.nodup_keys⟩

def erase (r : Registry α β) (k : α) : Registry α β :=
  ⟨r.entries.filter (·.1 ≠ k), r.nodup_keys.sublist (List.filter_sublist.map _)⟩

def assign (r : Registry α β) (k : α) : Option β → Registry α β
  | some v => r.insert k v
  | none => r.erase k

def filter (r : Registry α β) (p : β → Bool) : Registry α β :=
  ⟨r.entries.filter (p ·.2), r.nodup_keys.sublist (List.filter_sublist.map _)⟩

/-- The registry of a list of entries; of two with one key the later counts. -/
def ofList (l : List (α × β)) : Registry α β := l.foldl (fun r e => r.insert e.1 e.2) ∅

/-! ## What each operation does to each key -/

variable {r : Registry α β} {k l : α} {v w : β}

@[simp] theorem get?_empty : (∅ : Registry α β).get? k = none := rfl

theorem find_put {es : List (α × β)} :
    find l (put k v es) = if l = k then some v else find l es := by
  induction es with
  | nil => rfl
  | cons e es ih =>
    by_cases ha : e.1 = k
    · by_cases h : l = k <;> simp [put, find, ha, h]
    · simp only [put, ha, if_false, find, ih]
      grind

theorem get?_insert : (r.insert k v).get? l = if l = k then some v else r.get? l := find_put

@[simp] theorem get?_insert_self : (r.insert k v).get? k = some v := by simp [get?_insert]

theorem get?_insert_of_ne (h : l ≠ k) : (r.insert k v).get? l = r.get? l := by
  simp [get?_insert, h]

theorem find_filter_ne {es : List (α × β)} :
    find l (es.filter (·.1 ≠ k)) = if l = k then none else find l es := by
  induction es with
  | nil => simp [find]
  | cons e es ih =>
    by_cases ha : e.1 = k
    · rw [List.filter_cons_of_neg (by simpa using ha), ih]
      simp only [find]
      grind
    · rw [List.filter_cons_of_pos (by simpa using ha)]
      simp only [find, ih]
      grind

theorem get?_erase : (r.erase k).get? l = if l = k then none else r.get? l := find_filter_ne

@[simp] theorem get?_erase_self : (r.erase k).get? k = none := by simp [get?_erase]

theorem get?_erase_of_ne (h : l ≠ k) : (r.erase k).get? l = r.get? l := by
  simp [get?_erase, h]

theorem get?_assign {o : Option β} :
    (r.assign k o).get? l = if l = k then o else r.get? l := by
  cases o with
  | some v => exact get?_insert
  | none => exact get?_erase

theorem get?_insert_eq_some_iff :
    (r.insert k v).get? l = some w ↔ l = k ∧ v = w ∨ l ≠ k ∧ r.get? l = some w := by
  rw [get?_insert]
  by_cases h : l = k <;> simp [h]

theorem get?_erase_eq_some_iff : (r.erase k).get? l = some w ↔ l ≠ k ∧ r.get? l = some w := by
  rw [get?_erase]
  by_cases h : l = k <;> simp [h]

theorem put_put {es : List (α × β)} : put k w (put k v es) = put k w es := by
  induction es with
  | nil => simp [put]
  | cons e es ih => by_cases h : e.1 = k <;> simp [put, h, ih]

theorem insert_insert : (r.insert k v).insert k w = r.insert k w := by
  simp only [insert, put_put]

/-! ## Keys and their number -/

theorem isSome_find {es : List (α × β)} : (find k es).isSome ↔ k ∈ es.map Prod.fst := by
  induction es with
  | nil => simp [find]
  | cons e es ih =>
    by_cases h : k = e.1 <;> simp [find, h, ← ih]

theorem mem_keys_iff : k ∈ r.keys ↔ (r.get? k).isSome := isSome_find.symm

theorem length_keys : r.keys.length = r.size := by simp [keys, size]

theorem find_eq_none {es : List (α × β)} (h : k ∉ es.map Prod.fst) : find k es = none := by
  rwa [← Option.not_isSome_iff_eq_none, isSome_find]

theorem filter_put {es : List (α × β)} (h : k ∉ es.map Prod.fst) :
    (put k v es).filter (·.1 ≠ k) = es := by
  induction es with
  | nil => simp [put]
  | cons e es ih =>
    obtain ⟨hk, hes⟩ := not_or.1 (mt List.mem_cons.2 h)
    rw [put, if_neg (Ne.symm hk), List.filter_cons_of_pos (by simpa using Ne.symm hk), ih hes]

theorem erase_insert (h : r.get? k = none) : (r.insert k v).erase k = r := by
  obtain ⟨es, hn⟩ := r
  have hk : k ∉ es.map Prod.fst := by
    rwa [get?, ← Option.not_isSome_iff_eq_none, isSome_find] at h
  simp only [erase, insert, filter_put hk]

theorem find_filter {p : β → Bool} {es : List (α × β)} (h : (es.map Prod.fst).Nodup) :
    find k (es.filter fun e => p e.2) = (find k es).filter p := by
  induction es with
  | nil => rfl
  | cons e es ih =>
    obtain ⟨hk, h⟩ := List.nodup_cons.1 h
    by_cases he : k = e.1
    · -- no other entry has the key
      subst he
      rcases hp : p e.2 with _ | _
      · rw [List.filter_cons_of_neg (by simp [hp]), ih h, find_eq_none hk]
        simp [find, Option.filter_some, hp]
      · simp [find, Option.filter_some, hp]
    · rcases hp : p e.2 with _ | _ <;> simp [hp, find, he, ih h]

theorem get?_filter {p : β → Bool} : (r.filter p).get? k = (r.get? k).filter p :=
  find_filter r.nodup_keys

/-! ## Sums over the values -/

theorem foldr_put (g : β → Nat) {es : List (α × β)} :
    (put k v es).foldr (fun e n => g e.2 + n) 0 + ((find k es).map g).getD 0 =
      es.foldr (fun e n => g e.2 + n) 0 + g v := by
  induction es with
  | nil => simp [put, find]
  | cons e es ih =>
    by_cases h : e.1 = k
    · simp only [put, find, h, if_true, List.foldr_cons, Option.map_some, Option.getD_some]
      omega
    · simp only [put, find, h, Ne.symm h, if_false, List.foldr_cons]
      omega

/-- What setting a value does to a sum over all values: the old one leaves it, the new one comes
    in. -/
theorem sum_insert (g : β → Nat) :
    (r.insert k v).sum g + ((r.get? k).map g).getD 0 = r.sum g + g v :=
  foldr_put g

theorem foldr_filter_ne (g : β → Nat) {es : List (α × β)} (h : (es.map Prod.fst).Nodup) :
    (es.filter (·.1 ≠ k)).foldr (fun e n => g e.2 + n) 0 + ((find k es).map g).getD 0 =
      es.foldr (fun e n => g e.2 + n) 0 := by
  induction es with
  | nil => rfl
  | cons e es ih =>
    obtain ⟨hk, h⟩ := List.nodup_cons.1 h
    have ih := ih h
    by_cases he : k = e.1
    · rw [find_eq_none (he ▸ hk)] at ih
      rw [List.filter_cons_of_neg (by simp [he])]
      simp only [find, he, if_true, List.foldr_cons, Option.map_some, Option.getD_some,
        Option.map_none, Option.getD_none] at ih ⊢
      omega
    · rw [List.filter_cons_of_pos (by simpa using Ne.symm he)]
      simp only [find, he, if_false, List.foldr_cons]
      omega

theorem sum_erase (g : β → Nat) : (r.erase k).sum g + ((r.get? k).map g).getD 0 = r.sum g :=
  foldr_filter_ne g r.nodup_keys

theorem sum_assign (g : β → Nat) {o : Option β} :
    (r.assign k o).sum g + ((r.get? k).map g).getD 0 = r.sum g + (o.map g).getD 0 := by
  cases o with
  | some v => exact sum_insert g
  | none => exact sum_erase g

theorem sum_mono {f g : β → Nat} (h : ∀ v, f v ≤ g v) : r.sum f ≤ r.sum g := by
  simp only [sum]
  induction r.entries with
  | nil => exact Nat.le_refl 0
  | cons e es ih => exact Nat.add_le_add (h e.2) ih

theorem sum_eq_zero {g : β → Nat} (h : ∀ k, r.get? k = none) : r.sum g = 0 := by
  rcases hr : r.entries with _ | ⟨e, es⟩
  · rw [sum, hr]
    rfl
  · have he := h e.1
    rw [get?, hr, find, if_pos rfl] at he
    cases he

theorem sum_one : r.sum (fun _ => 1) = r.size := by
  simp only [sum, size]
  induction r.entries with
  | nil => rfl
  | cons e es ih => rw [List.foldr_cons, ih, List.length_cons, Nat.add_comm]

end Registry

end PlatformCore
