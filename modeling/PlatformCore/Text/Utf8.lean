/-
  Text as UTF-8 bytes.

  * `utf8 s` are the bytes of a text and `ofUtf8? b` the text that bytes spell, if they are
    well formed;
  * `ofUtf8?_eq_some_iff`: the two are inverse to each other;
  * `Every p s` says that all characters of a text pass a test, and `forall_utf8_iff` that their
    bytes may be tested instead, if the test treats all numbers outside ASCII alike.
-/

namespace PlatformCore.Text

def utf8 (s : String) : List UInt8 := s.toUTF8.data.toList

def ofUtf8? (b : List UInt8) : Option String := String.fromUTF8? ⟨b.toArray⟩

theorem ofUtf8?_eq_some_iff {b : List UInt8} {s : String} :
    ofUtf8? b = some s ↔ b = utf8 s := by
  rw [ofUtf8?, String.fromUTF8?]
  constructor
  · intro h
    split at h
    · cases h; simp [utf8, String.fromUTF8]
    · cases h
  · rintro rfl
    have h : (⟨(utf8 s).toArray⟩ : ByteArray) = s.toByteArray := by simp [utf8]
    rw [h, dif_pos s.isValidUTF8]
    rfl

@[simp] theorem ofUtf8?_utf8 (s : String) : ofUtf8? (utf8 s) = some s :=
  ofUtf8?_eq_some_iff.2 rfl

theorem utf8_injective {s t : String} (h : utf8 s = utf8 t) : s = t := by
  have := ofUtf8?_utf8 s
  rw [h, ofUtf8?_utf8] at this
  exact (Option.some.inj this).symm

theorem utf8_eq_nil_iff {s : String} : utf8 s = [] ↔ s = "" :=
  ⟨fun h => utf8_injective (t := "") (by rw [h]; rfl), fun h => by rw [h]; rfl⟩

/-! ## Characters and their bytes -/

theorem utf8_eq_flatMap (s : String) : utf8 s = s.toList.flatMap String.utf8EncodeChar := by
  have h : s.toByteArray = s.toList.utf8Encode := by
    rw [← String.toByteArray_ofList, String.ofList_toList]
  rw [utf8, String.toUTF8_eq_toByteArray, h]
  simp [List.utf8Encode]

theorem utf8EncodeChar_of_lt {c : Char} (h : c.toNat < 128) :
    String.utf8EncodeChar c = [UInt8.ofNat c.toNat] := by
  rw [String.utf8EncodeChar]
  exact if_pos (Nat.le_of_lt_succ h)

theorem le_toNat_of_mem_utf8EncodeChar {c : Char} {b : UInt8} (h : 128 ≤ c.toNat)
    (hb : b ∈ String.utf8EncodeChar c) : 128 ≤ b.toNat := by
  have hc : ¬ c.val.toNat ≤ 127 := fun h' => absurd (Nat.le_trans h h') (by decide)
  simp only [String.utf8EncodeChar, if_neg hc] at hb
  split at hb
  · simp only [List.mem_cons, List.not_mem_nil, or_false] at hb
    rcases hb with rfl | rfl <;> rw [UInt8.toNat_ofNat'] <;> omega
  split at hb
  · simp only [List.mem_cons, List.not_mem_nil, or_false] at hb
    rcases hb with rfl | rfl | rfl <;> rw [UInt8.toNat_ofNat'] <;> omega
  · simp only [List.mem_cons, List.not_mem_nil, or_false] at hb
    rcases hb with rfl | rfl | rfl | rfl <;> rw [UInt8.toNat_ofNat'] <;> omega

def Every (p : Nat → Prop) (s : String) : Prop := ∀ c ∈ s.toList, p c.toNat

instance (p : Nat → Prop) [DecidablePred p] (s : String) : Decidable (Every p s) :=
  decidable_of_iff (s.toList.all (fun c => decide (p c.toNat)) = true) (by simp [Every])

section

variable {p : Nat → Prop}

theorem every_append {s t : String} : Every p (s ++ t) ↔ Every p s ∧ Every p t := by
  simp only [Every, String.toList_append, List.forall_mem_append]

variable (hp : ∀ n, 128 ≤ n → (p n ↔ p 128))
include hp

theorem forall_utf8EncodeChar_iff {c : Char} :
    (∀ b ∈ String.utf8EncodeChar c, p b.toNat) ↔ p c.toNat := by
  by_cases hc : c.toNat < 128
  · have hm : c.toNat % 2 ^ 8 = c.toNat := Nat.mod_eq_of_lt (by omega)
    simp only [utf8EncodeChar_of_lt hc, List.mem_singleton, forall_eq, UInt8.toNat_ofNat', hm]
  · have hc := Nat.not_lt.1 hc
    constructor
    · intro h
      -- no character is written with no bytes at all
      obtain ⟨b, hb⟩ := List.exists_mem_of_ne_nil _ (String.utf8EncodeChar_ne_nil (c := c))
      exact (hp _ hc).2 ((hp _ (le_toNat_of_mem_utf8EncodeChar hc hb)).1 (h b hb))
    · intro h b hb
      exact (hp _ (le_toNat_of_mem_utf8EncodeChar hc hb)).2 ((hp _ hc).1 h)

/-- A test that treats all numbers outside ASCII alike may as well be made on the bytes. -/
theorem forall_utf8_iff {s : String} : (∀ b ∈ utf8 s, p b.toNat) ↔ Every p s := by
  simp only [Every, utf8_eq_flatMap, List.mem_flatMap, ← forall_utf8EncodeChar_iff hp]
  exact ⟨fun h c hc b hb => h b ⟨c, hc, hb⟩, fun h b ⟨c, hc, hb⟩ => h c hc b hb⟩

end

end PlatformCore.Text
