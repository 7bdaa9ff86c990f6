/-
  How fast passwords can be tried.

  Between two bans the users turn down at most as many credentials of a client as the threshold
  allows, and between the failures of one ban and those of the next lies the length of a ban.  So
  the number of rejections is bounded by the time from the first to the last of them.

  * `Spans` and `Pace` are the invariant: what the rejections of a client so far, its record, and
    the clock have to do with each other;
  * `Pace.serve`, `Pace.serveAll`: every visit keeps the invariant, and so does every run;
  * `length_rejections_le`: the bound.
-/
import PlatformCore.Proofs.Session.Standing
import PlatformCore.Session.Visit

namespace PlatformCore.Session

variable {M q f : Nat} {L now now' first last : Int} {ts : List Int} {r : Option ClientRecord}

/-! ## Readings that span bans -/

/-- The readings `ts`, the last of which is `last`, are `f` more than `q` times the threshold `M`,
    and `q` bans of length `L` lie between the first and the last of them. -/
structure Spans (M : Nat) (L : Int) (ts : List Int) (last : Int) (q f : Nat) : Prop where
  getLast?_eq : ts.getLast? = some last
  length_eq : ts.length = q * M + f
  span : ∀ first ∈ ts.head?, first + q * L ≤ last

namespace Spans

theorem singleton : Spans M L [now] now 0 1 where
  getLast?_eq := rfl
  length_eq := by simp
  span := by simp

theorem head?_append (h : Spans M L ts last q f) : (ts ++ [now]).head? = ts.head? := by
  rcases ts with _ | ⟨first, ts⟩
  · cases h.getLast?_eq
  · rfl

theorem next (h : Spans M L ts last q f) (hn : last ≤ now) :
    Spans M L (ts ++ [now]) now q (f + 1) where
  getLast?_eq := by simp
  length_eq := by simp [h.length_eq, Nat.add_assoc]
  span := by
    intro first hf
    have := h.span first (h.head?_append ▸ hf)
    omega

theorem again (h : Spans M L ts last q M) (hl : last + L ≤ now) :
    Spans M L (ts ++ [now]) now (q + 1) 1 where
  getLast?_eq := by simp
  length_eq := by simp [h.length_eq, Nat.succ_mul]
  span := by
    intro first hf
    have := h.span first (h.head?_append ▸ hf)
    simp only [Int.natCast_add, Int.natCast_one, Int.add_mul, Int.one_mul]
    omega

theorem length_le (h : Spans M L ts last q f) (hf : f ≤ M) (hL : 0 < L)
    (h₁ : ts.head? = some first) : (ts.length : Int) ≤ M * (1 + (last - first) / L) := by
  have hq : (q : Int) ≤ (last - first) / L := by
    rw [Int.le_ediv_iff_mul_le hL]
    have := h.span first h₁
    omega
  have hN : (ts.length : Int) ≤ M * (1 + q) := by
    rw [h.length_eq]
    calc ((q * M + f : Nat) : Int) ≤ ((q * M + M : Nat) : Int) := by omega
      _ = M * (1 + q) := by
        rw [Int.natCast_add, Int.natCast_mul, Int.mul_add, Int.mul_one, Int.mul_comm, Int.add_comm]
  exact Int.le_trans hN (Int.mul_le_mul_of_nonneg_left (by omega) (Int.natCast_nonneg M))

end Spans

/-! ## The invariant -/

/-- What the readings at which a client was rejected have to do with its record at a reading. -/
inductive Pace (M : Nat) (L now : Int) : List Int → Option ClientRecord → Prop
  | clean : Pace M L now [] none
  /-- It was rejected less often than the threshold since its last ban. -/
  | counting {ts : List Int} {last : Int} {q f : Nat} (h : Spans M L ts last q f) (hf : 0 < f)
    (hM : f < M) (hn : last ≤ now) : Pace M L now ts (some ⟨f, none⟩)
  | banned {ts : List Int} {last : Int} {q : Nat} (h : Spans M L ts last q M)
    (hn : last ≤ now) : Pace M L now ts (some ⟨M, some last⟩)
  /-- The ban has lapsed, and its record is gone. -/
  | lapsed {ts : List Int} {last : Int} {q : Nat} (h : Spans M L ts last q M)
    (hl : last + L ≤ now) : Pace M L now ts none

namespace Pace

theorem mono (h : Pace M L now ts r) (hn : now ≤ now') : Pace M L now' ts r := by
  cases h with
  | clean => exact .clean
  | counting h hf hM hl => exact .counting h hf hM (Int.le_trans hl hn)
  | banned h hl => exact .banned h (Int.le_trans hl hn)
  | lapsed h hl => exact .lapsed h (Int.le_trans hl hn)

theorem standing (h : Pace M L now ts r) (h₁ : 0 < L) (h₂ : L ≤ Clock.latest) :
    Pace M L now ts (standing r now L) := by
  cases h with
  | clean => exact .clean
  | counting h hf hM hn =>
    rw [standing_of_bannedAt_eq_none rfl]
    exact .counting h hf hM hn
  | lapsed h hl => exact .lapsed h hl
  | @banned _ last _ h hn =>
    by_cases ha : (ClientRecord.mk M (some last)).BanActive now L
    · rw [standing_of_bars ⟨_, rfl, ha⟩]
      exact .banned h hn
    · rw [standing_of_lapsed (by simp) ha]
      refine .lapsed h ?_
      have hl : ¬ subCapped now last < L := fun hl => ha ⟨last, rfl, hl⟩
      rw [subCapped_lt_iff (Int.le_of_lt h₁) h₂] at hl
      omega

theorem of_spans (h : Spans M L ts now q f) (hf : 0 < f) (hM : f ≤ M) :
    Pace M L now ts (some ⟨f, if M ≤ f then some now else none⟩) := by
  rcases Nat.lt_or_eq_of_le hM with hlt | rfl
  · rw [if_neg (Nat.not_le.2 hlt)]
    exact .counting h hf hlt (Int.le_refl now)
  · rw [if_pos (Nat.le_refl f)]
    exact .banned h (Int.le_refl now)

theorem length_le (h : Pace M L now ts r) (hL : 0 < L) (h₁ : ts.head? = some first)
    (hₙ : ts.getLast? = some last) : (ts.length : Int) ≤ M * (1 + (last - first) / L) := by
  cases h with
  | clean => cases h₁
  | counting h _ hM _ =>
    cases hₙ.symm.trans h.getLast?_eq
    exact h.length_le (Nat.le_of_lt hM) hL h₁
  | banned h _ | lapsed h _ =>
    cases hₙ.symm.trans h.getLast?_eq
    exact h.length_le (Nat.le_refl M) hL h₁

end Pace

/-! ## What one visit does -/

variable {s : SessionSettings}

theorem Pace.fail (h : Pace s.threshold L now ts r) (hb : ∀ x ∈ r, x.bannedAt = none) :
    Pace s.threshold L now (ts ++ [now])
      (some ((r.getD {}).fail s.maxLoginFailure.toNat now)) := by
  have hM := s.threshold_pos
  cases h with
  | clean =>
    rw [Option.getD_none, ClientRecord.fail_of_lt rfl hM]
    exact .of_spans .singleton Nat.one_pos hM
  | counting h hf hlt hn =>
    rw [Option.getD_some, ClientRecord.fail_of_lt rfl hlt]
    exact .of_spans (h.next hn) (Nat.succ_pos _) hlt
  | banned h hn => cases hb _ rfl
  | lapsed h hl =>
    rw [Option.getD_none, ClientRecord.fail_of_lt rfl hM]
    exact .of_spans (h.again hl) Nat.one_pos hM

variable {g : Gateway} {b : BanList} {client : String} {v : Visit} {vs : List Visit}

theorem Pace.serve (h : Pace g.settings.threshold g.settings.banLength now ts (b.get? client))
    (hL : 0 < g.settings.banLength) (ht : isTrusted g.settings client = false)
    (hn : now ≤ v.now) :
    Pace g.settings.threshold g.settings.banLength v.now
      (ts ++ (v.rejection? client (g.serve b v)).toList) ((g.serve b v).bans.get? client) := by
  obtain ⟨now', verify, errand⟩ := v
  have h' := h.mono hn
  have hs := h'.standing hL g.settings.banLength_le
  cases errand with
  | logout | whoAmI => simpa [Gateway.serve, Visit.rejection?] using h'
  | login m c credentials =>
    by_cases hc : c = client
    · subst hc
      generalize ho : g.serve b ⟨now', verify, .login m c credentials⟩ = o
      have hl : Logs g verify now' m c credentials b o := ho ▸ Gateway.logs_login
      cases hl with
      | unsuited | refused => simpa [Visit.rejection?] using h'
      | accepted _ _ hv => simpa [Visit.rejection?, hv, BanList.get?_isBanned_self] using hs
      | rejected _ hb hv =>
        rw [Gateway.get?_bans_reject ht hb]
        simpa [Visit.rejection?, hv] using hs.fail fun x hx => bannedAt_of_mem_standing hb hx
    · have hb : (g.login verify now' m c credentials b).bans.get? client = b.get? client :=
        Gateway.get?_bans_login_of_ne (Ne.symm hc)
      simpa [Gateway.serve, Visit.rejection?, hc, hb] using h'

theorem Pace.serveAll (h : Pace g.settings.threshold g.settings.banLength now ts (b.get? client))
    (hL : 0 < g.settings.banLength) (ht : isTrusted g.settings client = false)
    (hn : ∀ v ∈ vs, now ≤ v.now) (hp : vs.Pairwise (·.now ≤ ·.now)) :
    ∃ now', Pace g.settings.threshold g.settings.banLength now'
      (ts ++ rejections client (g.serveAll b vs).2) ((g.serveAll b vs).1.get? client) := by
  induction vs generalizing now ts b with
  | nil => exact ⟨now, by simpa [rejections, Gateway.serveAll] using h⟩
  | cons v vs ih =>
    obtain ⟨hv, hp⟩ := List.pairwise_cons.1 hp
    have hs := h.serve hL ht (hn v List.mem_cons_self)
    obtain ⟨now', h'⟩ := ih hs hv hp
    refine ⟨now', ?_⟩
    have he : rejections client (g.serveAll b (v :: vs)).2 =
        (v.rejection? client (g.serve b v)).toList ++
          rejections client (g.serveAll (g.serve b v).bans vs).2 := by
      simp only [Gateway.serveAll, rejections, List.filterMap_cons]
      cases v.rejection? client (g.serve b v) <;> rfl
    rw [he, ← List.append_assoc]
    exact h'

/-! ## The bound -/

/-- **Passwords can only be tried at a pace.** Whatever the visits to a gateway at times that do
    not go back, the users turn down credentials of a client that is not trusted at most as often
    as the threshold allows once, and once more for each length of a ban that lies between the
    first and the last rejection. -/
theorem length_rejections_le (g : Gateway) (vs : List Visit) (client : String)
    (hL : 1 ≤ g.settings.banLengthSecs) (hp : vs.Pairwise (·.now ≤ ·.now))
    (ht : isTrusted g.settings client = false) (first last : Int)
    (h₁ : (rejections client (g.serveAll {} vs).2).head? = some first)
    (hₙ : (rejections client (g.serveAll {} vs).2).getLast? = some last) :
    ((rejections client (g.serveAll {} vs).2).length : Int) ≤
      g.settings.threshold * (1 + (last - first) / g.settings.banLength) := by
  have hb := SessionSettings.banLength_pos hL
  cases vs with
  | nil => cases h₁
  | cons v vs =>
    have hn : ∀ u ∈ v :: vs, v.now ≤ u.now := by
      intro u hu
      rcases List.mem_cons.1 hu with rfl | hu
      · exact Int.le_refl _
      · exact (List.pairwise_cons.1 hp).1 u hu
    have h₀ : Pace g.settings.threshold g.settings.banLength v.now [] (BanList.get? {} client) :=
      .clean
    obtain ⟨now, h⟩ := h₀.serveAll hb ht hn hp
    exact h.length_le hb h₁ hₙ

/-- A gateway that bans for a second after two failures. -/
def strictGateway : Gateway where
  settings := { maxLoginFailure := 2, banLengthSecs := 1 }
  key := []

/-- A client that guesses at the password of another, before and after it is banned. -/
def siege : List Visit :=
  let verify := fun _ password => password == "secret"
  let login := fun now client password => ⟨now, verify, .login .post client ⟨"ann", password⟩⟩
  [login 0 "203.0.113.9" "a", login 10 "203.0.113.7" "secret", login 20 "203.0.113.9" "b",
    login 500 "203.0.113.9" "secret", ⟨600, verify, .logout .post⟩,
    login 1020 "203.0.113.9" "c", login 1020 "203.0.113.9" "d", login 1020 "203.0.113.9" "e"]

theorem length_rejections_le_siege :
    rejections "203.0.113.9" (strictGateway.serveAll {} siege).2 = [0, 20, 1020, 1020] ∧
      ((rejections "203.0.113.9" (strictGateway.serveAll {} siege).2).length : Int) ≤
        strictGateway.settings.threshold * (1 + (1020 - 0) / strictGateway.settings.banLength) := by
  have h : rejections "203.0.113.9" (strictGateway.serveAll {} siege).2 = [0, 20, 1020, 1020] := rfl
  exact ⟨h, length_rejections_le strictGateway siege "203.0.113.9" (by decide) (by decide) rfl 0 1020
    (by rw [h]; rfl) (by rw [h]; rfl)⟩

end PlatformCore.Session
