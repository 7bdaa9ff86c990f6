/-
  The token of a request among all else that its headers carry.

  A browser lists the cookies of a request between semicolons.  Whatever the others are called and
  hold, the session cookie is found by its name, and what it holds is given back as it is.  A
  cookie that was made to be forgotten holds nothing, and then no other is looked at.

  * `Cookie` is a cookie of a request, `cookieText` the text that lists them, and
    `filterMap_splitOn_cookieText` says how that text is taken apart;
  * `tokenOfCookies?_cookieText`: the first cookie with the name decides;
  * `tokenOfHeaders?_eq_some_iff`: in which header the token of a request stands;
  * `extracted_of_settings`: both, for every name that valid settings can give the cookie.
-/
import PlatformCore.Proofs.Http.Value
import PlatformCore.Session.Cookie
import PlatformCore.Settings.Validity

namespace PlatformCore.Session

/-! ## The cookies of a request -/

/-- A cookie as a browser sends it back. -/
structure Cookie where
  name : String
  value : String
deriving DecidableEq, Repr

def Cookie.text (c : Cookie) : String := c.name ++ "=" ++ c.value

def cookieText (l : List Cookie) : String := "; ".intercalate (l.map Cookie.text)

/-- A cookie that can be told from its neighbours. -/
structure Cookie.IsPlain (c : Cookie) : Prop where
  name : ∀ x ∈ c.name.toList, isCookieNameChar x = true
  value : ';' ∉ c.value.toList

instance (c : Cookie) : Decidable c.IsPlain :=
  decidable_of_iff (c.name.toList.all isCookieNameChar = true ∧ ';' ∉ c.value.toList)
    ⟨fun ⟨hn, hv⟩ => ⟨List.all_eq_true.1 hn, hv⟩, fun ⟨hn, hv⟩ => ⟨List.all_eq_true.2 hn, hv⟩⟩

/-- A text that holds no semicolon, and neither starts nor ends with a blank; it is not empty. -/
structure IsBare (t : String) : Prop where
  ne_empty : t ≠ ""
  semicolon : ';' ∉ t.toList
  head : ∀ x, t.toList.head? = some x → Text.isBlank x = false
  last : ∀ x, t.toList.getLast? = some x → Text.isBlank x = false

variable {k : SessionCookie} {c : Cookie} {l before after : List Cookie} {t : String}

theorem Cookie.toList_text : c.text.toList = c.name.toList ++ '=' :: c.value.toList := by
  simp [text]

namespace Cookie.IsPlain

theorem semicolon_notMem_text (h : c.IsPlain) : ';' ∉ c.text.toList := by
  rw [toList_text, List.mem_append, List.mem_cons]
  rintro (hm | hm | hm)
  · exact (isCookieNameChar_iff.1 (h.name _ hm)).1 rfl
  · exact absurd hm (by decide)
  · exact h.value hm

theorem trim_text (h : c.IsPlain) :
    Text.trim c.text.toList = c.name.toList ++ '=' :: Text.trimEnd c.value.toList := by
  rw [toList_text, Text.trim, Text.dropWhile_isBlank_eq_self, Text.trimEnd_append_cons rfl]
  intro x hx
  rcases hn : c.name.toList with _ | ⟨y, ys⟩
  · rw [hn] at hx
    cases hx
    rfl
  · rw [hn] at hx
    cases hx
    exact (isCookieNameChar_iff.1 (h.name _ (by simp [hn]))).2.2

/-- A cookie is taken apart into its name and its value, less the blanks at the end. -/
theorem splitPair?_trim_text (h : c.IsPlain) :
    SessionCookie.splitPair? (Text.trim c.text.toList) =
      some (c.name.toList, Text.trimEnd c.value.toList) := by
  have hn : ∀ x ∈ c.name.toList, decide (x ≠ '=') = true :=
    fun x hx => decide_eq_true (isCookieNameChar_iff.1 (h.name x hx)).2.1
  rw [h.trim_text, SessionCookie.splitPair?, List.dropWhile_append_of_pos hn,
    List.takeWhile_append_of_pos hn]
  simp

end Cookie.IsPlain

/-! ## Taking the text apart -/

theorem splitOn_intercalate_semicolon {w a : List Char} {l : List (List Char)}
    (hw : ';' ∉ w) (hl : ∀ s ∈ a :: l, ';' ∉ s) :
    (w ++ ("; ".toList).intercalate (a :: l)).splitOn ';' = (w ++ a) :: l.map (' ' :: ·) := by
  induction l generalizing w a with
  | nil =>
    rw [List.intercalate_singleton, List.splitOn_eq_singleton]
    · rfl
    · simpa [hw] using hl
  | cons b l ih =>
    obtain ⟨ha, hl⟩ := List.forall_mem_cons.1 hl
    have hs : w ++ ("; ".toList).intercalate (a :: b :: l) =
        (w ++ a) ++ ';' :: ([' '] ++ ("; ".toList).intercalate (b :: l)) := by
      rw [List.intercalate_cons_cons]
      simp
    rw [hs, List.splitOn_append_cons_self_of_not_mem (by simp [hw, ha]), ih (by decide) hl]
    rfl

theorem filterMap_map_text (hl : ∀ c ∈ l, c.IsPlain) :
    (l.map fun c => ' ' :: c.text.toList).filterMap
        (fun p => SessionCookie.splitPair? (Text.trim p)) =
      l.map fun c => (c.name.toList, Text.trimEnd c.value.toList) := by
  induction l with
  | nil => rfl
  | cons c l ih =>
    obtain ⟨hc, hl⟩ := List.forall_mem_cons.1 hl
    have hp : SessionCookie.splitPair? (Text.trim (' ' :: c.text.toList)) =
        some (c.name.toList, Text.trimEnd c.value.toList) := by
      rw [Text.trim_cons_of_isBlank rfl, hc.splitPair?_trim_text]
    simp [hp, ih hl]

/-- **The text of a list of cookies** is taken apart into their names and values. -/
theorem filterMap_splitOn_cookieText (hl : ∀ c ∈ l, c.IsPlain) :
    ((cookieText l).toList.splitOn ';').filterMap
        (fun p => SessionCookie.splitPair? (Text.trim p)) =
      l.map fun c => (c.name.toList, Text.trimEnd c.value.toList) := by
  have ht : (cookieText l).toList = ("; ".toList).intercalate (l.map (·.text.toList)) := by
    rw [cookieText, String.toList_intercalate, List.map_map]
    rfl
  rw [ht]
  rcases l with _ | ⟨c, l⟩
  · rfl
  have hseg : ∀ s ∈ c.text.toList :: l.map (·.text.toList), ';' ∉ s := by
    rw [List.forall_mem_cons, List.forall_mem_map]
    exact ⟨(hl c (by simp)).semicolon_notMem_text, fun d hd =>
      (hl d (by simp [hd])).semicolon_notMem_text⟩
  obtain ⟨hc, hl⟩ := List.forall_mem_cons.1 hl
  have hs := splitOn_intercalate_semicolon List.not_mem_nil hseg
  rw [List.nil_append, List.nil_append, List.map_map] at hs
  rw [List.map_cons, hs, List.filterMap_cons, hc.splitPair?_trim_text, List.map_cons]
  exact congrArg _ (filterMap_map_text hl)

namespace SessionCookie

/-- **The first cookie with the name decides**, whatever it holds. -/
theorem tokenOfCookies?_cookieText (hl : ∀ c ∈ l, c.IsPlain) :
    k.tokenOfCookies? (cookieText l) = (l.find? (·.name = k.name)).bind fun c =>
      nonempty? (Text.trim (Text.trimEnd c.value.toList)) := by
  have hp : ((fun p : List Char × List Char => decide (p.1 = k.name.toList)) ∘
      fun c : Cookie => (c.name.toList, Text.trimEnd c.value.toList)) =
      fun c : Cookie => decide (c.name = k.name) := by
    funext c
    simp [String.toList_inj]
  rw [tokenOfCookies?, filterMap_splitOn_cookieText hl]
  simp only [Option.bind_eq_bind, List.find?_map, hp]
  simp only [Option.bind_map, Function.comp_def]

theorem tokenOfCookies?_cookieText_of_forall (hl : ∀ c ∈ l, c.IsPlain ∧ c.name ≠ k.name) :
    k.tokenOfCookies? (cookieText l) = none := by
  rw [tokenOfCookies?_cookieText fun c hc => (hl c hc).1, List.find?_eq_none.2]
  · rfl
  · intro c hc
    simpa using (hl c hc).2

theorem tokenOfCookies?_cookieText_append (hk : IsCookieName k.name) (ht : ';' ∉ t.toList)
    (hl : ∀ c ∈ before ++ after, c.IsPlain ∧ c.name ≠ k.name) :
    k.tokenOfCookies? (cookieText (before ++ ⟨k.name, t⟩ :: after)) =
      nonempty? (Text.trim (Text.trimEnd t.toList)) := by
  have hb : before.find? (fun c => c.name = k.name) = none := by
    rw [List.find?_eq_none]
    intro c hc
    simpa using (hl c (by simp [hc])).2
  rw [tokenOfCookies?_cookieText, List.find?_append, hb]
  · simp
  · intro c hc
    rcases List.mem_append.1 hc with hc | hc
    · exact (hl c (by simp [hc])).1
    · rcases List.mem_cons.1 hc with rfl | hc
      · exact ⟨hk.2, ht⟩
      · exact (hl c (by simp [hc])).1

/-! ## The headers of a request -/

/-- A cookie header that can be read has the token. -/
def Yields (k : SessionCookie) (v : Http.HeaderValue) (t : String) : Prop :=
  ∃ s, v.Spells s ∧ k.tokenOfCookies? s = some t

variable {h : Http.Headers} {v : Http.HeaderValue} {s : String}

theorem nonempty?_eq_some_iff {l : List Char} :
    nonempty? l = some t ↔ t = String.ofList l ∧ t ≠ "" := by
  rw [nonempty?]
  split
  · next hl => simp [hl]
  · next hl =>
    constructor
    · rintro ⟨⟩
      exact ⟨rfl, fun ht => hl (by simpa using ht)⟩
    · rintro ⟨rfl, -⟩
      rfl

theorem toList_bearer_append (rest : String) :
    ("Bearer " ++ rest).toList = bearer ++ rest.toList := String.toList_append

theorem tokenOfAuthorization?_eq_some_iff :
    tokenOfAuthorization? s = some t ↔
      ∃ rest, s = "Bearer " ++ rest ∧ t = Text.trimmed rest ∧ t ≠ "" := by
  rw [tokenOfAuthorization?]
  constructor
  · intro ht
    split at ht
    · next hp =>
      obtain ⟨rest, hr⟩ := List.isPrefixOf_iff_prefix.1 hp
      rw [← hr, List.drop_left, nonempty?_eq_some_iff] at ht
      refine ⟨String.ofList rest, ?_, ?_⟩
      · rw [← String.toList_inj, ← hr, toList_bearer_append, String.toList_ofList]
      · simpa [Text.trimmed] using ht
    · cases ht
  · rintro ⟨rest, rfl, ht⟩
    rw [toList_bearer_append, if_pos (List.isPrefixOf_iff_prefix.2 (List.prefix_append _ _)),
      List.drop_left, nonempty?_eq_some_iff]
    exact ht

theorem bind_text?_eq_some_iff : v.text?.bind k.tokenOfCookies? = some t ↔ k.Yields v t := by
  simp only [Option.bind_eq_some_iff, Http.HeaderValue.text?_eq_some_iff, Yields]

theorem bind_text?_eq_none_iff :
    v.text?.bind k.tokenOfCookies? = none ↔ ∀ u, ¬ k.Yields v u := by
  simp only [Option.eq_none_iff_forall_ne_some, ne_eq, bind_text?_eq_some_iff]

/-- **Where the token of a request stands**: in the first cookie header that has one, and if there
    is none, behind the name of the scheme in the first authorization header. -/
theorem tokenOfHeaders?_eq_some_iff :
    k.tokenOfHeaders? h = some t ↔
      (∃ before v after, h.values .cookie = before ++ v :: after ∧ k.Yields v t ∧
        ∀ w ∈ before, ∀ u, ¬ k.Yields w u) ∨
      (∀ w ∈ h.values .cookie, ∀ u, ¬ k.Yields w u) ∧
        ∃ v after rest, h.values .authorization = v :: after ∧ v.Spells ("Bearer " ++ rest) ∧
          t = Text.trimmed rest ∧ t ≠ "" := by
  have hc : ((h.values .cookie).filterMap fun v => v.text?).findSome? k.tokenOfCookies? =
      (h.values .cookie).findSome? fun v => v.text?.bind k.tokenOfCookies? := by
    rw [← List.head?_filterMap, List.filterMap_filterMap, List.head?_filterMap]
  have hfirst := List.findSome?_eq_some_iff (l := h.values .cookie) (b := t)
    (f := fun v => v.text?.bind k.tokenOfCookies?)
  simp only [bind_text?_eq_some_iff, bind_text?_eq_none_iff] at hfirst
  rw [tokenOfHeaders?, hc, ← hfirst]
  rcases hf : (h.values .cookie).findSome? fun v => v.text?.bind k.tokenOfCookies? with _ | u
  <;> simp only [hf]
  · have hnone : ∀ w ∈ h.values .cookie, ∀ u, ¬ k.Yields w u := fun w hw =>
      bind_text?_eq_none_iff.1 (List.findSome?_eq_none_iff.1 hf w hw)
    simp only [reduceCtorEq, false_or]
    constructor
    · intro ht
      obtain ⟨v, hv, s, hs, ht⟩ := by
        simpa only [Option.bind_eq_bind, Option.bind_eq_some_iff] using ht
      obtain ⟨after, ha⟩ := List.head?_eq_some_iff.1 hv
      obtain ⟨rest, rfl, hr⟩ := tokenOfAuthorization?_eq_some_iff.1 ht
      exact ⟨hnone, v, after, rest, ha, Http.HeaderValue.text?_eq_some_iff.1 hs, hr⟩
    · rintro ⟨-, v, after, rest, ha, hs, hr⟩
      rw [ha, List.head?_cons, Option.bind_eq_bind, Option.bind_some,
        Http.HeaderValue.text?_eq_some_iff.2 hs, Option.bind_eq_bind, Option.bind_some]
      exact tokenOfAuthorization?_eq_some_iff.2 ⟨rest, rfl, hr⟩
  · obtain ⟨before, v, after, hl, hv, -⟩ := List.findSome?_eq_some_iff.1 hf
    have hsome : ¬ ∀ w ∈ h.values .cookie, ∀ u, ¬ k.Yields w u := by
      intro hn
      exact hn v (by simp [hl]) u (bind_text?_eq_some_iff.1 hv)
    simp [hsome]

/-! ## The cookie that is made to be forgotten -/

/-- A text up to its first semicolon. -/
def firstSegment (s : String) : String := String.ofList (s.toList.takeWhile (· ≠ ';'))

theorem firstSegment_append_attributes (hc : c.IsPlain) (n : Nat) :
    firstSegment (c.text ++ k.attributes n) = c.text := by
  have hm : ∀ x ∈ c.text.toList, decide (x ≠ ';') = true :=
    fun x hx => decide_eq_true fun he => hc.semicolon_notMem_text (he ▸ hx)
  rw [firstSegment, String.toList_append, List.takeWhile_append_of_pos hm]
  simp [attributes]

theorem firstSegment_expire (hk : IsCookieName k.name) :
    firstSegment k.expire = (Cookie.mk k.name "").text := by
  have hc : (Cookie.mk k.name "").IsPlain := ⟨hk.2, List.not_mem_nil⟩
  rw [← firstSegment_append_attributes (k := k) hc 0]
  simp [expire, Cookie.text]

end SessionCookie

theorem IsBare.nonempty?_trim (h : IsBare t) :
    SessionCookie.nonempty? (Text.trim (Text.trimEnd t.toList)) = some t := by
  rw [Text.trimEnd_eq_self h.last, Text.trim_eq_self h.head h.last,
    SessionCookie.nonempty?_eq_some_iff]
  exact ⟨by simp, h.ne_empty⟩

/-- **The token of a request.**  Under every name that valid settings can give the cookie, a token
    without semicolons and blanks at its ends is found wherever its cookie stands among others.
    Without the cookie, or with the one that is made to be forgotten in its place, there is none.
    Of several headers the first cookie header with a token decides, and only if there is none, the
    first authorization header. -/
theorem extracted_of_settings (s : Settings) (hs : s.fault? = none) (k : SessionCookie)
    (hk : k = .ofSettings s.session) :
    (∀ t before after, IsBare t → (∀ c ∈ before ++ after, c.IsPlain ∧ c.name ≠ k.name) →
      k.tokenOfCookies? (cookieText (before ++ ⟨k.name, t⟩ :: after)) = some t ∧
      k.tokenOfCookies? (cookieText (before ++ after)) = none ∧
      k.tokenOfCookies? ("; ".intercalate (before.map Cookie.text ++
        SessionCookie.firstSegment k.expire :: after.map Cookie.text)) = none) ∧
    ∀ h t, k.tokenOfHeaders? h = some t ↔
      (∃ before v after, h.values .cookie = before ++ v :: after ∧ k.Yields v t ∧
        ∀ w ∈ before, ∀ u, ¬ k.Yields w u) ∨
      (∀ w ∈ h.values .cookie, ∀ u, ¬ k.Yields w u) ∧
        ∃ v after rest, h.values .authorization = v :: after ∧ v.Spells ("Bearer " ++ rest) ∧
          t = Text.trimmed rest ∧ t ≠ "" := by
  have hname : IsCookieName k.name := hk ▸ (Settings.fault?_eq_none_iff.1 hs).2.2.2.1
  refine ⟨fun t before after ht hl => ⟨?_, ?_, ?_⟩, fun h t => k.tokenOfHeaders?_eq_some_iff⟩
  · rw [SessionCookie.tokenOfCookies?_cookieText_append hname ht.semicolon hl, ht.nonempty?_trim]
  · exact SessionCookie.tokenOfCookies?_cookieText_of_forall hl
  · have he := SessionCookie.tokenOfCookies?_cookieText_append hname (t := "") List.not_mem_nil hl
    rw [SessionCookie.firstSegment_expire hname]
    simpa [cookieText, SessionCookie.nonempty?, Text.trim, Text.trimEnd] using he

/-- Cookies that stand beside the one with the token. -/
def neighbours : List Cookie := [⟨"theme", "dark"⟩, ⟨"x_collab_token", "collab_token=a"⟩, ⟨"", ""⟩]

theorem extracted_of_settings_default :
    (SessionCookie.ofSettings {}).tokenOfCookies?
        (cookieText (neighbours ++ ⟨"collab_token", "YWJjZA=="⟩ :: neighbours)) =
      some "YWJjZA==" := by
  have hs : ({} : Settings).fault? = none := Settings.fault?_withUsers (by simp)
  have ht : IsBare "YWJjZA==" :=
    ⟨by decide, by decide, by simp; decide, by simp; decide⟩
  have hl : ∀ c ∈ neighbours, c.IsPlain ∧ c.name ≠ "collab_token" := by
    simp only [neighbours, List.forall_mem_cons]
    exact ⟨by decide, by decide, by decide, List.forall_mem_nil _⟩
  exact ((extracted_of_settings {} hs _ rfl).1 _ _ _ ht (List.forall_mem_append.2 ⟨hl, hl⟩)).1

end PlatformCore.Session
