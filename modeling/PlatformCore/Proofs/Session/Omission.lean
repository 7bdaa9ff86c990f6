/-
  Runs with parts left out.

  What comes of a dealing depends on little: on the record of the client that it looks up, and of
  this record only on what counts at the reading of the clock.  So a run can do without some of its
  dealings, and what comes of the others is the same, as long as those left out do not change what
  counts for the others.

  * `runAll` makes steps in order, `marked` keeps the marked elements of a list, and
    `runAll_marked` compares a run with the one that makes the marked steps only;
  * `login_congr` and `seen_deal_congr`: dealings that find the same come to the same;
  * `get?_deal_congr` and `get?_deal_of_ne`: what they do to records.
-/
import PlatformCore.Proofs.Session.Course

namespace PlatformCore.Session

/-! ## Steps left out -/

section

variable {σ α β γ : Type} {step : σ → α → σ × β} {s s' : σ} {l : List (α × Bool)}

def marked (l : List (α × Bool)) : List α := (l.filter (·.2)).map (·.1)

/-- Makes steps in order, and tells what came of each. -/
def runAll (step : σ → α → σ × β) (s : σ) : List α → σ × List (α × β)
  | [] => (s, [])
  | a :: as =>
    let r := step s a
    let (t, history) := runAll step r.1 as
    (t, (a, r.2) :: history)

/-- **Leaving steps out.**  Let two states be alike for every step, and stay alike if both make it
    or, where it is not marked, the first alone.  Then the marked steps come to the same, as far as
    `f` shows, whether or not the others are made in between. -/
theorem runAll_marked (Like : α → σ → σ → Prop) (End : σ → σ → Prop) (f : β → γ)
    (hp : l.Pairwise fun p q => ∀ s s', Like p.1 s s' → Like q.1 s s')
    (hend : ∀ p ∈ l, ∀ s s', Like p.1 s s' → End s s')
    (hkeep : ∀ p ∈ l, p.2 = true → ∀ s s', Like p.1 s s' →
      Like p.1 (step s p.1).1 (step s' p.1).1 ∧ f (step s p.1).2 = f (step s' p.1).2)
    (hleave : ∀ p ∈ l, p.2 = false → ∀ s s', Like p.1 s s' → Like p.1 (step s p.1).1 s')
    (h : ∀ p ∈ l, Like p.1 s s') (h₀ : End s s') :
    End (runAll step s (l.map (·.1))).1 (runAll step s' (marked l)).1 ∧
      (marked ((runAll step s (l.map (·.1))).2.zip (l.map (·.2)))).map (f ·.2) =
        (runAll step s' (marked l)).2.map (f ·.2) := by
  induction l generalizing s s' with
  | nil => exact ⟨h₀, rfl⟩
  | cons p l ih =>
    obtain ⟨hpl, hp'⟩ := List.pairwise_cons.1 hp
    obtain ⟨hep, hend'⟩ := List.forall_mem_cons.1 hend
    obtain ⟨hk, hkeep'⟩ := List.forall_mem_cons.1 hkeep
    obtain ⟨hl, hleave'⟩ := List.forall_mem_cons.1 hleave
    have hsp : Like p.1 s s' := h p List.mem_cons_self
    obtain ⟨a, _ | _⟩ := p
    · have ha := hl rfl s s' hsp
      exact ih hp' hend' hkeep' hleave' (fun q hq => hpl q hq _ _ ha) (hep _ _ ha)
    · obtain ⟨ha, hf⟩ := hk rfl s s' hsp
      obtain ⟨he, hm⟩ := ih hp' hend' hkeep' hleave' (fun q hq => hpl q hq _ _ ha) (hep _ _ ha)
      refine ⟨he, ?_⟩
      change f (step s a).2 :: _ = f (step s' a).2 :: _
      rw [hf]
      exact congrArg _ hm

end

/-! ## The ban list -/

variable {R : Option ClientRecord → Option ClientRecord → Prop} {s : SessionSettings}
  {b b' : BanList} {now : Int} {c : String}

theorem bars_congr {r r' : Option ClientRecord} {length : Int}
    (h : standing r now length = standing r' now length) :
    Bars r now length ↔ Bars r' now length := by
  rw [← bars_standing_iff, h, bars_standing_iff]

namespace BanList

theorem isBanned_fst_congr
    (h : standing (b.get? c) now s.banLength = standing (b'.get? c) now s.banLength) :
    (b.isBanned s now c).1 = (b'.isBanned s now c).1 := by
  rw [Bool.eq_iff_iff, isBanned_fst_iff, isBanned_fst_iff]
  exact bars_congr h

/-- A failure of a client does the same wherever the same record counts; where it bans the client
    the records are the same then. -/
theorem recordFailure_congr
    (h : standing (b.get? c) now s.banLength = standing (b'.get? c) now s.banLength) :
    (b.recordFailure s now c).1 = (b'.recordFailure s now c).1 ∧
      ((b.recordFailure s now c).2.get? c = (b'.recordFailure s now c).2.get? c ∨
        (b.recordFailure s now c).1 = false ∧ (b.recordFailure s now c).2 = b ∧
          (b'.recordFailure s now c).2 = b') := by
  rcases ht : isTrusted s c with _ | _
  · by_cases hb : Bars (b.get? c) now s.banLength
    · rw [recordFailure_of_bars hb, recordFailure_of_bars ((bars_congr h).1 hb)]
      exact ⟨rfl, .inr ⟨rfl, rfl, rfl⟩⟩
    · have hb' : ¬ Bars (b'.get? c) now s.banLength := mt (bars_congr h).2 hb
      refine ⟨?_, .inl ?_⟩
      · rw [recordFailure_of_not_bars ht hb _ rfl, recordFailure_of_not_bars ht hb' _ rfl, h]
      · rw [get?_recordFailure_self ht hb, get?_recordFailure_self ht hb', h]
  · rw [recordFailure_of_isTrusted ht, recordFailure_of_isTrusted ht]
    exact ⟨rfl, .inr ⟨rfl, rfl, rfl⟩⟩

section
variable (hR₀ : ∀ r, R r r)
  (h : standing (b.get? c) now s.banLength = standing (b'.get? c) now s.banLength)
include hR₀ h

theorem get?_isBanned_congr :
    R ((b.isBanned s now c).2.get? c) ((b'.isBanned s now c).2.get? c) := by
  rw [get?_isBanned_self, get?_isBanned_self, h]
  exact hR₀ _

theorem get?_recordFailure_congr (hR : R (b.get? c) (b'.get? c)) :
    R ((b.recordFailure s now c).2.get? c) ((b'.recordFailure s now c).2.get? c) := by
  rcases (recordFailure_congr h).2 with he | ⟨-, he, he'⟩
  · rw [he]
    exact hR₀ _
  · rw [he, he']
    exact hR

end

end BanList

/-! ## Dealings -/

/-- What came of a dealing, but for the ban list that it left. -/
def Upshot.seen : Upshot → Upshot
  | outcome o => outcome { o with bans := {} }
  | finding f => finding f

/-- The client whose record a dealing shows as it is kept, if any. -/
def Dealing.shown? : Dealing → Option String
  | inquiry _ (.record client) | inquiry _ (.failedAttempts client) => some client
  | _ => none

namespace Gateway

variable {g : Gateway} {d : Dealing} {verify : String → String → Bool} {m : Http.Method}
  {client login : String} {k : Credentials}

theorem login_of_not_bars (hb : ¬ Bars (b.get? client) now g.settings.banLength) :
    g.login verify now .post client k b =
      if verify k.login k.password then
        g.accept now client k.login (b.isBanned g.settings now client).2
      else g.reject now client k.login (b.isBanned g.settings now client).2 := by
  generalize ho : g.login verify now .post client k b = o
  have hl : Logs g verify now .post client k b o := ho ▸ logs_login
  cases hl with
  | unsuited hm => exact absurd rfl hm
  | refused _ hn => exact absurd hn hb
  | accepted _ _ hv => rw [if_pos hv]
  | rejected _ _ hv => rw [if_neg (Bool.eq_false_iff.1 hv)]

section
variable (h : standing (b.get? c) now g.settings.banLength =
  standing (b'.get? c) now g.settings.banLength)
include h

theorem standing_isBanned_congr :
    standing ((b.isBanned g.settings now c).2.get? c) now g.settings.banLength =
      standing ((b'.isBanned g.settings now c).2.get? c) now g.settings.banLength := by
  rw [BanList.get?_isBanned_self, BanList.get?_isBanned_self, h]

theorem ensureNotBanned_fst_congr :
    (g.ensureNotBanned now c b).1 = (g.ensureNotBanned now c b').1 := by
  have hf : (b.isBanned g.settings now c).1 = (b'.isBanned g.settings now c).1 :=
    BanList.isBanned_fst_congr h
  rw [ensureNotBanned, ensureNotBanned]
  rcases hb : b.isBanned g.settings now c with ⟨_ | _, b₁⟩ <;>
    rcases hb' : b'.isBanned g.settings now c with ⟨_ | _, b₂⟩ <;> rw [hb, hb'] at hf <;>
    first | rfl | cases hf

theorem recordFailure_fst_congr :
    (g.recordFailure now c b).1 = (g.recordFailure now c b').1 ∧
      (g.recordFailure now c b).2.2 = (g.recordFailure now c b').2.2 := by
  obtain ⟨hf, hr⟩ := BanList.recordFailure_congr (s := g.settings) h
  rw [recordFailure, recordFailure]
  rcases hb : b.recordFailure g.settings now c with ⟨_ | _, b₁⟩ <;>
    rcases hb' : b'.recordFailure g.settings now c with ⟨_ | _, b₂⟩ <;> rw [hb, hb'] at hf hr
  · exact ⟨rfl, rfl⟩
  · cases hf
  · cases hf
  · -- the number of failures in the notice is that of the new record
    obtain hr : b₁.get? c = b₂.get? c := hr.resolve_right fun hn => by cases hn.1
    simp only [BanList.failedAttempts, hr, and_self]

end

theorem accept_congr :
    { g.accept now client login b with bans := {} } =
      { g.accept now client login b' with bans := {} } := by
  rw [accept, accept]
  rcases g.issueSessionToken now login with _ | _ <;> rfl

/-- A login comes to the same wherever the same record of its client counts. -/
theorem login_congr (h : m = .post → standing (b.get? client) now g.settings.banLength =
      standing (b'.get? client) now g.settings.banLength) :
    { g.login verify now m client k b with bans := {} } =
      { g.login verify now m client k b' with bans := {} } := by
  by_cases hm : m = .post
  · subst hm
    have h := h rfl
    by_cases hb : Bars (b.get? client) now g.settings.banLength
    · rw [login_of_bars hb, login_of_bars ((bars_congr h).1 hb)]
    · rw [login_of_not_bars hb, login_of_not_bars (mt (bars_congr h).2 hb)]
      rcases verify k.login k.password with _ | _
      · obtain ⟨hf, hn⟩ := recordFailure_fst_congr (standing_isBanned_congr h)
        simp only [Bool.false_eq_true, if_false, reject, hf, hn]
      · simp only [if_true]
        exact accept_congr
  · rw [Gateway.login, Gateway.login, if_pos hm, if_pos hm]

/-- **Dealings that find the same come to the same**: the same record that counts, of the client
    that they look up, or the same record, of the client that they show. -/
theorem seen_deal_congr
    (h : ∀ c, d.lookedUp? = some c → standing (b.get? c) d.now g.settings.banLength =
      standing (b'.get? c) d.now g.settings.banLength)
    (hs : ∀ c, d.shown? = some c → b.get? c = b'.get? c) :
    (g.deal b d).2.seen = (g.deal b' d).2.seen := by
  obtain ⟨now, verify, e⟩ | ⟨now, q⟩ := d
  · cases e with
    | logout | whoAmI => rfl
    | login m client k =>
      exact congrArg Upshot.outcome (login_congr fun hm => h client (if_pos hm))
  · refine congrArg Upshot.finding ?_
    cases q with
    | recordFailure client => exact congrArg Finding.flag (recordFailure_fst_congr (h client rfl)).1
    | isBanned client => exact congrArg Finding.flag (BanList.isBanned_fst_congr (h client rfl))
    | ensureNotBanned client =>
      exact congrArg Finding.leave (ensureNotBanned_fst_congr (h client rfl))
    | record client => exact congrArg Finding.record (hs client rfl)
    | failedAttempts client =>
      simp only [inquire, BanList.failedAttempts, hs client rfl]
    | _ => rfl

theorem get?_deal_of_ne (h : d.lookedUp? ≠ some c) : (g.deal b d).1.get? c = b.get? c :=
  record_deal (Q := (· = b.get? c)) (fun _ hc => absurd hc h) (fun _ hc => absurd hc h) rfl

section
variable (hR₀ : ∀ r, R r r)
include hR₀

theorem get?_bans_login_congr
    (h : standing (b.get? client) now g.settings.banLength =
      standing (b'.get? client) now g.settings.banLength)
    (hR : R (b.get? client) (b'.get? client)) :
    R ((g.login verify now .post client k b).bans.get? client)
      ((g.login verify now .post client k b').bans.get? client) := by
  by_cases hb : Bars (b.get? client) now g.settings.banLength
  · rw [login_of_bars hb, login_of_bars ((bars_congr h).1 hb)]
    exact hR
  · rw [login_of_not_bars hb, login_of_not_bars (mt (bars_congr h).2 hb)]
    have hi : R ((b.isBanned g.settings now client).2.get? client)
        ((b'.isBanned g.settings now client).2.get? client) := BanList.get?_isBanned_congr hR₀ h
    rcases verify k.login k.password with _ | _
    · simp only [Bool.false_eq_true, if_false, bans_reject]
      exact BanList.get?_recordFailure_congr hR₀ (standing_isBanned_congr h) hi
    · simpa only [if_true, bans_accept] using hi

/-- Records that are alike stay alike in a dealing that looks them up, if the same record counts. -/
theorem get?_deal_congr
    (h : d.lookedUp? = some c → standing (b.get? c) d.now g.settings.banLength =
      standing (b'.get? c) d.now g.settings.banLength)
    (hR : R (b.get? c) (b'.get? c)) :
    R ((g.deal b d).1.get? c) ((g.deal b' d).1.get? c) := by
  by_cases hd : d.lookedUp? = some c
  · have h := h hd
    obtain ⟨now, verify, e⟩ | ⟨now, q⟩ := d
    · cases e with
      | logout | whoAmI => cases hd
      | login m client k =>
        obtain ⟨rfl, hc⟩ := Option.ite_none_right_eq_some.1 hd
        obtain rfl : client = c := Option.some.inj hc
        exact get?_bans_login_congr hR₀ h hR
    · cases q with
      | recordFailure client =>
        obtain rfl : client = c := Option.some.inj hd
        simp only [deal, inquire, bans_recordFailure]
        exact BanList.get?_recordFailure_congr hR₀ h hR
      | isBanned client =>
        obtain rfl : client = c := Option.some.inj hd
        exact BanList.get?_isBanned_congr hR₀ h
      | ensureNotBanned client =>
        obtain rfl : client = c := Option.some.inj hd
        simp only [deal, inquire, bans_ensureNotBanned]
        exact BanList.get?_isBanned_congr hR₀ h
      | _ => cases hd
  · rw [get?_deal_of_ne hd, get?_deal_of_ne hd]
    exact hR

end

theorem dealAll_eq_runAll {ds : List Dealing} : g.dealAll b ds = runAll g.deal b ds := by
  induction ds generalizing b with
  | nil => rfl
  | cons d ds ih => rw [dealAll, runAll, ih]

end Gateway

end PlatformCore.Session
