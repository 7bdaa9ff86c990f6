/-
  Which texts are accepted as tokens.

  A text is taken up exactly if, but for blanks around it, it is the Base64 text of a name, an
  expiry and the code of both.  Nothing else is read as such a text, so the parts are found again
  from the end although nothing separates them, and no two texts say the same.

  * `validate_of_sealed`: what becomes of a text that carries a genuine code;
  * `exists_sealed_of_validate_ne`: every other text is malformed;
  * `validate_exact`: which texts are accepted, which are too old, and that all others are
    malformed.
-/
import PlatformCore.Session.Token

namespace PlatformCore.Session.Token

variable {key : Key} {now : Int} {token : String} {name : List UInt8} {e : Int} {c : Claims}

/-! ## Genuine texts and all others -/

theorem isBlank_of_mem_sealed {p : List UInt8} {x : Char} (h : x ∈ sealed key p) :
    Text.isBlank x = false := by
  obtain ⟨h₁, h₂, -⟩ := Base64.toNat_of_mem_encode h
  exact Text.isBlank_of_visible ⟨by omega, by omega⟩

theorem trim_sealed {p : List UInt8} : Text.trim (sealed key p) = sealed key p :=
  Text.trim_eq_self (fun _ h => isBlank_of_mem_sealed (List.mem_of_mem_head? h))
    (fun _ h => isBlank_of_mem_sealed (List.mem_of_getLast? h))

/-- Nothing separates the parts of a payload, but the length of the second is fixed. -/
theorem payload_inj {name' : List UInt8} {e' : Int} (he : Clock.InRange e)
    (he' : Clock.InRange e') (h : payload name e = payload name' e') : name = name' ∧ e = e' := by
  obtain ⟨hn, hw⟩ := List.append_inj' h (by simp)
  refine ⟨hn, ?_⟩
  rw [← Word.ofBytes_bytes he, ← Word.ofBytes_bytes he', hw]

/-- What becomes of a text with a genuine code: its age is looked at before its name. -/
theorem validate_of_sealed (hn : name ≠ []) (he : Clock.InRange e)
    (h : Text.trim token.toList = sealed key (payload name e)) :
    validate key now token =
      if e < now then .error (.expiredToken e)
      else match Text.ofUtf8? name with
        | some login => .ok ⟨login, e⟩
        | none => .error .invalidToken := by
  have hlen : ¬ (payload name e ++ Hash.hmac key (payload name e)).length ≤
      codeLength + expiryLength := by
    have := List.length_pos_iff.2 hn
    simp only [payload, codeLength, expiryLength, List.length_append, Word.length_bytes,
      Hash.length_hmac]
    omega
  have hcode : splitFromEnd codeLength (payload name e ++ Hash.hmac key (payload name e)) =
      (payload name e, Hash.hmac key (payload name e)) := splitFromEnd_append rfl
  have hexpiry : splitFromEnd expiryLength (payload name e) = (name, Word.bytes e) :=
    splitFromEnd_append (Word.length_bytes e)
  rcases ho : Text.ofUtf8? name with _ | login
  all_goals
    simp only [validate, h, sealed, Base64.decode?_encode, if_neg hlen, hcode, hexpiry, ne_eq,
      not_true_eq_false, if_false, Word.ofBytes_bytes he, ho]

theorem exists_sealed_of_validate_ne (h : validate key now token ≠ .error .invalidToken) :
    ∃ name e, name ≠ [] ∧ Clock.InRange e ∧
      Text.trim token.toList = sealed key (payload name e) := by
  simp only [validate] at h
  rcases hd : Base64.decode? (Text.trim token.toList) with _ | bytes
  · rw [hd] at h; exact absurd rfl h
  rw [hd] at h
  simp only at h
  split at h
  · exact absurd rfl h
  · rename_i hlen
    rcases hs : splitFromEnd codeLength bytes with ⟨p, code⟩
    rcases ht : splitFromEnd expiryLength p with ⟨name, expiry⟩
    have hbytes := splitFromEnd_eq hs
    have hp := splitFromEnd_eq ht
    have hcode := length_splitFromEnd hs (by omega)
    have hpl : p.length = bytes.length - codeLength := by simp [hbytes, hcode]
    have hexpiry := length_splitFromEnd ht (by simp only [hpl]; omega)
    simp only [hs] at h
    split at h
    · exact absurd rfl h
    · rename_i hmac
      rw [Classical.not_not] at hmac
      refine ⟨name, Word.ofBytes expiry, ?_, Word.ofBytes_inRange _, ?_⟩
      · rintro rfl
        simp only [hp, List.nil_append, hexpiry] at hpl
        omega
      · rw [Base64.eq_encode_of_decode? hd, hbytes, sealed, payload, Word.bytes_ofBytes hexpiry,
          ← hp, hmac]

/-! ## Exact acceptance -/

theorem validate_eq_ok_iff :
    validate key now token = .ok c ↔
      c.login ≠ "" ∧ Clock.InRange c.expiresAt ∧ now ≤ c.expiresAt ∧
        Text.trim token.toList = sealed key (payload (Text.utf8 c.login) c.expiresAt) := by
  constructor
  · intro h
    obtain ⟨name, e, hn, he, ht⟩ := exists_sealed_of_validate_ne (by rw [h]; nofun)
    rw [validate_of_sealed hn he ht] at h
    split at h
    · cases h
    · rename_i hlt
      split at h
      · rename_i login hl
        cases h
        rw [Text.ofUtf8?_eq_some_iff] at hl
        exact ⟨fun h => hn (hl.trans (Text.utf8_eq_nil_iff.2 h)), he, Int.not_lt.1 hlt, hl ▸ ht⟩
      · cases h
  · rintro ⟨hl, he, hlt, ht⟩
    rw [validate_of_sealed (fun h => hl (Text.utf8_eq_nil_iff.1 h)) he ht,
      if_neg (Int.not_lt.2 hlt), Text.ofUtf8?_utf8]

theorem validate_text (hl : c.login ≠ "") (he : Clock.InRange c.expiresAt)
    (hn : now ≤ c.expiresAt) : validate key now (text key c) = .ok c := by
  rw [validate_eq_ok_iff, text, String.toList_ofList, trim_sealed]
  exact ⟨hl, he, hn, rfl⟩

theorem validate_eq_expired_iff :
    validate key now token = .error (.expiredToken e) ↔
      Clock.InRange e ∧ e < now ∧
        ∃ name ≠ [], Text.trim token.toList = sealed key (payload name e) := by
  constructor
  · intro h
    obtain ⟨name, e', hn, he, ht⟩ := exists_sealed_of_validate_ne (by rw [h]; nofun)
    rw [validate_of_sealed hn he ht] at h
    split at h
    · rename_i hlt
      cases h
      exact ⟨he, hlt, name, hn, ht⟩
    · split at h <;> cases h
  · rintro ⟨he, hlt, name, hn, ht⟩
    rw [validate_of_sealed hn he ht, if_pos hlt]

theorem validate_eq_invalid_iff :
    validate key now token = .error .invalidToken ↔
      (∀ c, validate key now token ≠ .ok c) ∧
        ∀ e, validate key now token ≠ .error (.expiredToken e) := by
  constructor
  · intro h
    rw [h]
    exact ⟨nofun, nofun⟩
  · rintro ⟨hok, hexpired⟩
    refine Classical.byContradiction fun h => ?_
    obtain ⟨name, e, hn, he, ht⟩ := exists_sealed_of_validate_ne h
    rw [validate_of_sealed hn he ht] at h hok hexpired
    split at h
    · rename_i hlt
      exact hexpired e (if_pos hlt)
    · rename_i hlt
      rw [if_neg hlt] at hok
      split at h
      · rename_i login hl
        rw [hl] at hok
        exact hok _ rfl
      · exact h rfl

/-- **Exact acceptance.**  A text is taken up with given claims exactly if the login is not empty,
    the expiry is not past, and the text is, but for blanks around it, the one text of the claims.
    It is too old exactly if it is the text of some name, UTF-8 or not, with an expiry that is
    past.  Every other text is malformed.  So no two texts carry the same claims, whenever they are
    looked at. -/
theorem validate_exact (key : Key) (now : Int) (token : String) :
    (∀ c : Claims, validate key now token = .ok c ↔
      c.login ≠ "" ∧ Clock.InRange c.expiresAt ∧ now ≤ c.expiresAt ∧
        Text.trim token.toList = sealed key (payload (Text.utf8 c.login) c.expiresAt)) ∧
    (∀ e : Int, validate key now token = .error (.expiredToken e) ↔
      Clock.InRange e ∧ e < now ∧
        ∃ name ≠ [], Text.trim token.toList = sealed key (payload name e)) ∧
    (validate key now token = .error .invalidToken ↔
      (∀ c, validate key now token ≠ .ok c) ∧
        ∀ e, validate key now token ≠ .error (.expiredToken e)) ∧
    ∀ (now' : Int) (token' : String) (c : Claims), validate key now token = .ok c →
      validate key now' token' = .ok c → Text.trim token.toList = Text.trim token'.toList := by
  refine ⟨fun _ => validate_eq_ok_iff, fun _ => validate_eq_expired_iff,
    validate_eq_invalid_iff, ?_⟩
  intro now' token' c h h'
  exact (validate_eq_ok_iff.1 h).2.2.2.trans (validate_eq_ok_iff.1 h').2.2.2.symm

end PlatformCore.Session.Token
