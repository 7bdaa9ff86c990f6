/-
  Callers that rush: many logins at once, all for one client.

  The look at the ban list and the recording of the failure are apart, so callers that have passed
  the first may fail after the client was banned.  But each caller has one login at a time: there
  are no more such failures than there are other callers.

  * `Turns` is the relation of moves as they are for the caller that makes them, and
    `exists_turns_of_move?` says that nothing else changes;
  * `Tally` is the record of a client by the number of recorded failures;
  * `Rush` is the invariant, and `Rush.run` says that moves keep it;
  * `bounded_of_run?`: at most one ban, one alarm, and a bound on the failures.
-/
import Mathlib.Data.List.Induction
import Mathlib.Data.List.Perm.Subperm
import PlatformCore.Proofs.Session.Window
import PlatformCore.Session.Crowd

namespace PlatformCore.Session

/-! ## Moves of one caller -/

/-- What a move is for the caller `n` that makes it: its login before and after, the ban list, and
    what is reported. -/
inductive Turns (g : Gateway) (b : BanList) (n : Nat) :
    Option Attempt → Crowd.Move → BanList → Option Attempt → List Crowd.Entry → Prop
  | called {client c} : Turns g b n none (.call n .post client c) b (some ⟨client, c, .called⟩) []
  | unsuited {m client c} (hm : m ≠ .post) :
    Turns g b n none (.call n m client c) b none [.answered n .methodNotAllowed]
  | refused {client c now} (hb : Bars (b.get? client) now g.settings.banLength) :
    Turns g b n (some ⟨client, c, .called⟩) (.look n now) b none [.answered n .unauthorized]
  | cleared {client c now} (hb : ¬ Bars (b.get? client) now g.settings.banLength) :
    Turns g b n (some ⟨client, c, .called⟩) (.look n now) (b.isBanned g.settings now client).2
      (some ⟨client, c, .cleared⟩) []
  | judged {client c v} :
    Turns g b n (some ⟨client, c, .cleared⟩) (.judge n v) b (some ⟨client, c, .judged v⟩)
      [.judged n v]
  | granted {client c now r} :
    Turns g b n (some ⟨client, c, .judged true⟩) (.settle n now) b none [.answered n r]
  | failed {client c now} (f : Bool) (hf : f = (b.recordFailure g.settings now client).1) :
    Turns g b n (some ⟨client, c, .judged false⟩) (.settle n now)
      (b.recordFailure g.settings now client).2
      (some ⟨client, c, .rejected (rejectionEvents client c.login f)⟩) [.recorded n f]
  | announced {client c e events} :
    Turns g b n (some ⟨client, c, .rejected (e :: events)⟩) (.announce n) b
      (some ⟨client, c, .rejected events⟩) [.announced n e]
  | served {client c} :
    Turns g b n (some ⟨client, c, .rejected []⟩) (.announce n) b none [.answered n .unauthorized]

namespace Crowd

variable {g : Gateway} {l k : Crowd} {m : Move} {fs : List Entry}

theorem exists_turns_of_move? (h : l.move? g m = some (k, fs)) :
    ∃ n a, Turns g l.bans n (l.attempts.get? n) m k.bans a fs ∧
      k.attempts = l.attempts.assign n a := by
  cases m with
  | call n m client c =>
    simp only [move?] at h
    rcases ha : l.attempts.get? n with _ | a <;> simp only [ha] at h
    · rw [call] at h
      split at h <;> cases h
      · next hm => exact ⟨n, none, by rw [ha]; exact .unsuited hm, rfl⟩
      · next hm =>
        obtain rfl : m = .post := Decidable.not_not.1 hm
        exact ⟨n, some _, ha ▸ .called, rfl⟩
    · cases h
  | look n now =>
    simp only [move?] at h
    split at h
    · next client c ha =>
      by_cases hb : Bars (l.bans.get? client) now g.settings.banLength
      · rw [look, Gateway.ensureNotBanned, BanList.isBanned_of_bars hb] at h
        cases h
        exact ⟨n, none, ha ▸ .refused hb, rfl⟩
      · rw [look, Gateway.ensureNotBanned, BanList.isBanned_of_not_bars hb] at h
        cases h
        exact ⟨n, some _, ha ▸ .cleared hb, rfl⟩
    · cases h
  | judge n v =>
    simp only [move?] at h
    split at h <;> cases h
    next client c ha => exact ⟨n, some _, ha ▸ .judged, rfl⟩
  | settle n now =>
    simp only [move?] at h
    split at h
    · next client c v ha =>
      cases v with
      | true =>
        cases h
        exact ⟨n, none, ha ▸ .granted, rfl⟩
      | false =>
        rcases hr : g.recordFailure now client l.bans with ⟨f, b, notices⟩
        have hf : f = (l.bans.recordFailure g.settings now client).1 := by
          rw [← Gateway.fst_recordFailure, hr]
        obtain rfl : b = (l.bans.recordFailure g.settings now client).2 := by
          rw [← Gateway.bans_recordFailure, hr]
        simp only [settle, hr, Bool.false_eq_true, if_false] at h
        cases h
        exact ⟨n, some _, ha ▸ .failed f hf, rfl⟩
    · cases h
  | announce n =>
    simp only [move?] at h
    split at h
    · next client c e events ha =>
      cases h
      exact ⟨n, some _, ha ▸ .announced, rfl⟩
    · next client c ha =>
      cases h
      exact ⟨n, none, ha ▸ .served, rfl⟩
    · cases h

end Crowd

/-! ## Failures on the record -/

/-- The record of a client of which `n` failures were recorded, where `M` ban it and all readings of
    the clock are among `T`. -/
inductive Tally (M : Nat) (T : List Int) : Nat → Option ClientRecord → Prop
  | clean : Tally M T 0 none
  | counted {n : Nat} (hn : 0 < n) (hM : n < M) : Tally M T n (some ⟨n, none⟩)
  | banned {n : Nat} {t : Int} (hn : M ≤ n) (ht : t ∈ T) : Tally M T n (some ⟨M, some t⟩)

section
variable {s : SessionSettings} {T : List Int} {n : Nat} {r : Option ClientRecord} {now : Int}
  {b : BanList} {c : String}

namespace Tally

theorem failedAttempts_le (h : Tally s.threshold T n r) :
    (r.map (·.failedAttempts)).getD 0 ≤ s.threshold := by
  cases h with
  | clean => exact Nat.zero_le _
  | counted _ hM => exact Nat.le_of_lt hM
  | banned => exact Nat.le_refl _

theorem bars_iff (hT : ∀ t ∈ T, ∀ u ∈ T, t - u < s.banLength) (hnow : now ∈ T)
    (h : Tally s.threshold T n r) : Bars r now s.banLength ↔ s.threshold ≤ n := by
  have hM := s.threshold_pos
  cases h with
  | clean => simp only [Session.bars_iff]; grind
  | counted => simp only [Session.bars_iff]; grind
  | banned hn ht =>
    have := hT now hnow _ ht
    exact iff_of_true (bars_of_lt rfl rfl (by omega)) hn

theorem standing_eq (h : Tally s.threshold T n r) (hn : n < s.threshold) :
    standing r now s.banLength = r := by
  cases h with
  | clean => rfl
  | counted => exact standing_of_bannedAt_eq_none rfl
  | banned hM => exact absurd hn (Nat.not_lt.2 hM)

theorem isBanned (h : Tally s.threshold T n (b.get? c)) (hn : n < s.threshold) :
    Tally s.threshold T n ((b.isBanned s now c).2.get? c) := by
  rw [BanList.get?_isBanned_self, h.standing_eq hn]
  exact h

/-- A recorded failure is counted, and it bans the client exactly at the threshold. -/
theorem recordFailure (hT : ∀ t ∈ T, ∀ u ∈ T, t - u < s.banLength) (hnow : now ∈ T)
    (hc : isTrusted s c = false) (h : Tally s.threshold T n (b.get? c)) :
    Tally s.threshold T (n + 1) ((b.recordFailure s now c).2.get? c) ∧
      ((b.recordFailure s now c).1 = true ↔ n + 1 = s.threshold) := by
  rcases Nat.lt_or_ge n s.threshold with hn | hn
  · have hb : ¬ Bars (b.get? c) now s.banLength := by
      rw [h.bars_iff hT hnow]
      exact Nat.not_le.2 hn
    have hx : (b.get? c).getD {} = ⟨n, none⟩ := by
      generalize b.get? c = r at h
      cases h with
      | clean | counted => rfl
      | banned hM => exact absurd hn (Nat.not_lt.2 hM)
    rw [BanList.get?_recordFailure_self hc hb, BanList.recordFailure_of_not_bars hc hb _ rfl,
      h.standing_eq hn, hx, ClientRecord.fail_of_lt rfl hn]
    rcases Nat.lt_or_eq_of_le (Nat.succ_le_of_lt hn) with hlt | he
    · rw [if_neg (Nat.not_le.2 hlt)]
      exact ⟨.counted (Nat.succ_pos n) hlt, iff_of_false nofun (Nat.ne_of_lt hlt)⟩
    · rw [if_pos (Nat.le_of_eq he.symm)]
      refine ⟨?_, iff_of_true rfl he⟩
      have hn : s.threshold ≤ n + 1 := Nat.le_of_eq he.symm
      change Tally s.threshold T (n + 1) (some ⟨n + 1, some now⟩)
      rw [show (⟨n + 1, some now⟩ : ClientRecord) = ⟨s.threshold, some now⟩ by rw [← he]]
      exact .banned hn hnow
  · have hb : Bars (b.get? c) now s.banLength := (h.bars_iff hT hnow).2 hn
    rw [BanList.recordFailure_of_bars hb]
    refine ⟨?_, iff_of_false nofun (by omega)⟩
    generalize b.get? c = r at h
    have hM := s.threshold_pos
    cases h with
    | clean => omega
    | counted _ hM => omega
    | banned _ ht => exact .banned (by omega) ht

end Tally

end

/-! ## Accounts of a move -/

namespace Crowd

/-- The users turned down the credentials. -/
def Entry.isRejection : Entry → Bool
  | judged _ v => !v
  | _ => false

/-- A failure was recorded. -/
def Entry.isRecord : Entry → Bool
  | recorded _ _ => true
  | _ => false

/-- A failure was recorded, and banned its client. -/
def Entry.isBan : Entry → Bool
  | recorded _ f => f
  | _ => false

/-- It was announced that a client is banned. -/
def Entry.isAlarm : Entry → Bool
  | announced _ e => e.kind = .clientBanned
  | _ => false

end Crowd

/-- One if the ban list was passed and no failure is recorded yet. -/
def Attempt.inFlight (a : Attempt) : Nat :=
  match a.progress with
  | .cleared | .judged _ => 1
  | _ => 0

/-- One if the users turned down the credentials and the failure is not recorded yet. -/
def Attempt.unrecorded (a : Attempt) : Nat :=
  match a.progress with
  | .judged false => 1
  | _ => 0

/-- The number of bans that are still to be announced. -/
def Attempt.unannounced (a : Attempt) : Nat :=
  match a.progress with
  | .rejected events => events.countP fun e => e.kind = .clientBanned
  | _ => 0

theorem Attempt.inFlight_le (a : Attempt) : a.inFlight ≤ 1 := by
  rw [inFlight]
  split <;> decide

theorem Attempt.unrecorded_le_inFlight (a : Attempt) : a.unrecorded ≤ a.inFlight := by
  rw [unrecorded, inFlight]
  split <;> simp_all

namespace Turns

variable {g : Gateway} {b b' : BanList} {n : Nat} {m : Crowd.Move} {a a' : Option Attempt}
  {fs : List Crowd.Entry}

theorem rejections (h : Turns g b n a m b' a' fs) :
    fs.countP (·.isRejection) + (a.map (·.unrecorded)).getD 0 =
      fs.countP (·.isRecord) + (a'.map (·.unrecorded)).getD 0 := by
  cases h with
  | judged => rename_i v; cases v <;> rfl
  | _ => rfl

theorem alarms (h : Turns g b n a m b' a' fs) :
    fs.countP (·.isBan) + (a.map (·.unannounced)).getD 0 =
      fs.countP (·.isAlarm) + (a'.map (·.unannounced)).getD 0 := by
  cases h with
  | failed f => cases f <;> rfl
  | @announced client c e events =>
    simp only [List.countP_cons, List.countP_nil, Crowd.Entry.isBan, Crowd.Entry.isAlarm,
      Option.map_some, Option.getD_some, Attempt.unannounced, Bool.false_eq_true, if_false]
    omega
  | _ => rfl

theorem length_le (h : Turns g b n a m b' a' fs) : fs.length ≤ 1 := by
  cases h <;> exact Nat.le_of_ble_eq_true rfl

theorem recorded_of_unannounced (h : Turns g b n a m b' a' fs)
    (hu : (a'.map (·.unannounced)).getD 0 ≠ 0) :
    (a.map (·.unannounced)).getD 0 ≠ 0 ∨ .recorded n true ∈ fs := by
  cases h with
  | failed f =>
    cases f with
    | false => exact absurd rfl hu
    | true => exact .inr List.mem_cons_self
  | announced =>
    refine .inl (mt (fun he => ?_) hu)
    exact Nat.le_zero.1 (he ▸ List.Sublist.countP_le (List.sublist_cons_self ..))
  | _ => exact absurd rfl hu

theorem unannounced_of_isAlarm {x : Crowd.Entry} (h : Turns g b n a m b' a' fs) (hx : x ∈ fs)
    (ha : x.isAlarm = true) :
    (∃ e, x = .announced n e) ∧ (a.map (·.unannounced)).getD 0 ≠ 0 := by
  cases h with
  | @announced _ _ e events =>
    obtain rfl := List.mem_singleton.1 hx
    refine ⟨⟨e, rfl⟩, ?_⟩
    have he : decide (e.kind = .clientBanned) = true := ha
    simp only [Option.map_some, Option.getD_some, Attempt.unannounced, List.countP_cons, he]
    exact Nat.succ_ne_zero _
  | called | cleared => cases hx
  | _ =>
    obtain rfl := List.mem_singleton.1 hx
    cases ha

end Turns

/-! ## The rush -/

/-- A move of one of `k` callers, for one client, with readings of the clock among `T`. -/
def Crowd.Move.Fits (client : String) (k : Nat) (T : List Int) : Crowd.Move → Prop
  | call n _ c _ => n < k ∧ c = client
  | look _ now | settle _ now => now ∈ T
  | _ => True

variable {g : Gateway} {b b' : BanList} {n k c : Nat} {m : Crowd.Move} {a a' : Option Attempt}
  {fs es : List Crowd.Entry} {client : String} {T : List Int} {l l' : Crowd}

instance : Decidable (m.Fits client k T) :=
  match m with
  | .call .. => inferInstanceAs (Decidable (_ ∧ _))
  | .look .. | .settle .. => inferInstanceAs (Decidable (_ ∈ _))
  | .judge .. | .announce .. => isTrue trivial

/-- What a report may say after `pre`, where `M` failures ban a client. -/
def Crowd.Entry.Apt (M : Nat) (pre : List Crowd.Entry) : Crowd.Entry → Prop
  | recorded _ f => f = true ↔ pre.countP (·.isRecord) + 1 = M
  | announced n e => e.kind = .clientBanned → .recorded n true ∈ pre
  | _ => True

section
variable (hT : ∀ t ∈ T, ∀ u ∈ T, t - u < g.settings.banLength) (hm : m.Fits client k T)
include hm

theorem Turns.client_eq (h : Turns g b n a m b' a' fs) (ha : ∀ x ∈ a, n < k ∧ x.client = client) :
    ∀ x ∈ a', n < k ∧ x.client = client := by
  intro x hx
  cases h with
  | called =>
    obtain rfl := Option.mem_some_iff.1 hx
    exact hm
  | unsuited | refused | granted | served => cases hx
  | _ =>
    obtain rfl := Option.mem_some_iff.1 hx
    obtain ⟨hn, hc⟩ := ha _ rfl
    exact ⟨hn, hc⟩

include hT

theorem Turns.tally (hc : isTrusted g.settings client = false) (h : Turns g b n a m b' a' fs)
    (ha : ∀ x ∈ a, x.client = client) (ht : Tally g.settings.threshold T c (b.get? client)) :
    Tally g.settings.threshold T (c + fs.countP (·.isRecord)) (b'.get? client) ∧
      (∀ n f, .recorded n f ∈ fs → (f = true ↔ c + 1 = g.settings.threshold)) ∧
      (fs.countP (·.isRecord) + (a'.map (·.inFlight)).getD 0 ≤ (a.map (·.inFlight)).getD 0 ∨
        fs = [] ∧ c < g.settings.threshold) := by
  cases h with
  | called => exact ⟨ht, nofun, .inl (Nat.le_refl 0)⟩
  | @cleared client' _ now hb =>
    obtain rfl : client' = client := ha _ rfl
    have hn : c < g.settings.threshold := Nat.lt_of_not_le (mt (ht.bars_iff hT hm).2 hb)
    exact ⟨ht.isBanned hn, nofun, .inr ⟨rfl, hn⟩⟩
  | @failed client' _ now f hf =>
    obtain rfl : client' = client := ha _ rfl
    obtain ⟨hr, hi⟩ := ht.recordFailure hT hm hc
    refine ⟨hr, ?_, .inl (Nat.le_refl 1)⟩
    intro n' f' hx
    cases List.mem_singleton.1 hx
    rw [hf, hi]
  | judged => exact ⟨ht, by simp, .inl (Nat.le_refl 1)⟩
  | _ => exact ⟨ht, by simp, .inl (Nat.zero_le _)⟩

end

/-- Callers of one client, and what has been reported of them. -/
structure Rush (s : SessionSettings) (client : String) (k : Nat) (T : List Int) (l : Crowd)
    (es : List Crowd.Entry) : Prop where
  callers : ∀ n, ∀ x ∈ l.attempts.get? n, n < k ∧ x.client = client
  tally : Tally s.threshold T (es.countP (·.isRecord)) (l.bans.get? client)
  flight : es.countP (·.isRecord) + l.attempts.sum (·.inFlight) + 1 ≤ s.threshold + k
  rejections : es.countP (·.isRejection) = es.countP (·.isRecord) + l.attempts.sum (·.unrecorded)
  alarms : es.countP (·.isBan) = es.countP (·.isAlarm) + l.attempts.sum (·.unannounced)
  pending : ∀ n, ((l.attempts.get? n).map (·.unannounced)).getD 0 ≠ 0 → .recorded n true ∈ es
  apt : ∀ pre x, pre ++ [x] <+: es → x.Apt s.threshold pre

theorem Crowd.size_le (h : ∀ n, ∀ x ∈ l.attempts.get? n, n < k ∧ x.client = client) :
    l.attempts.size ≤ k := by
  have hn : l.attempts.keys.Nodup := l.attempts.nodup_keys
  have hs : l.attempts.keys ⊆ List.range k := by
    intro n hmem
    obtain ⟨x, hx⟩ := Option.isSome_iff_exists.1 (Registry.mem_keys_iff.1 hmem)
    exact List.mem_range.2 (h n x hx).1
  calc l.attempts.size = l.attempts.keys.length := Registry.length_keys.symm
    _ ≤ (List.range k).length := (List.Nodup.subperm hn hs).length_le
    _ = k := List.length_range

/-- What holds of every entry and those before it goes on to hold when there is one more. -/
theorem forall_prefix_append {α : Type} {P : List α → α → Prop} {es fs : List α}
    (h : ∀ pre x, pre ++ [x] <+: es → P pre x) (hl : fs.length ≤ 1) (hf : ∀ x ∈ fs, P es x) :
    ∀ pre x, pre ++ [x] <+: es ++ fs → P pre x := by
  intro pre x hp
  match fs with
  | [] => exact h pre x (by rwa [List.append_nil] at hp)
  | [y] =>
    rcases List.prefix_concat_iff.1 hp with he | hp
    · obtain ⟨rfl, hx⟩ := List.append_inj' he rfl
      obtain rfl := List.singleton_inj.1 hx
      exact hf _ List.mem_cons_self
    · exact h pre x hp
  | _ :: _ :: _ => exact absurd hl (by simp)

theorem countP_isBan_of_apt {M : Nat} (hM : 0 < M)
    (h : ∀ pre x, pre ++ [x] <+: es → Crowd.Entry.Apt M pre x) :
    es.countP (·.isBan) = if M ≤ es.countP (·.isRecord) then 1 else 0 := by
  induction es using List.reverseRecOn with
  | nil => exact (if_neg (Nat.not_le.2 hM)).symm
  | append_singleton es x ih =>
    have ih := ih fun pre y hp => h pre y (hp.trans (List.prefix_append ..))
    have hx : x.Apt M es := h es x (List.prefix_refl _)
    rw [List.countP_append, List.countP_append, ih]
    cases x with
    | recorded n f =>
      have hf : f = true ↔ es.countP (·.isRecord) + 1 = M := hx
      generalize es.countP (·.isRecord) = c at hf
      rw [List.countP_singleton, List.countP_singleton]
      change (if M ≤ c then 1 else 0) + (if f = true then 1 else 0) = if M ≤ c + 1 then 1 else 0
      rw [if_congr hf rfl rfl]
      split_ifs <;> omega
    | _ => rfl

namespace Rush

variable {s : SessionSettings}

theorem fresh (hb : b.get? client = none) : Rush s client k T { bans := b } [] where
  callers := nofun
  tally := by
    rw [show ({ bans := b } : Crowd).bans = b from rfl, hb]
    exact .clean
  flight := by
    have := s.threshold_pos
    change 0 + 0 + 1 ≤ _
    omega
  rejections := rfl
  alarms := rfl
  pending _ h := absurd rfl h
  apt := by
    intro pre x hp
    exact absurd (List.prefix_nil.1 hp) (by simp)

theorem move (hT : ∀ t ∈ T, ∀ u ∈ T, t - u < g.settings.banLength) (hm : m.Fits client k T)
    (hc : isTrusted g.settings client = false) (hr : Rush g.settings client k T l es)
    (h : l.move? g m = some (l', fs)) : Rush g.settings client k T l' (es ++ fs) := by
  obtain ⟨n, a, ht, ha⟩ := Crowd.exists_turns_of_move? h
  have hcl : ∀ i, ∀ x ∈ l'.attempts.get? i, i < k ∧ x.client = client := by
    intro i x hx
    rw [ha, Registry.get?_assign] at hx
    by_cases hi : i = n
    · rw [if_pos hi] at hx
      exact hi ▸ ht.client_eq hm (hr.callers n) x hx
    · rw [if_neg hi] at hx
      exact hr.callers i x hx
  have hsum (f : Attempt → Nat) : l'.attempts.sum f + ((l.attempts.get? n).map f).getD 0 =
      l.attempts.sum f + (a.map f).getD 0 := by
    rw [ha]
    exact Registry.sum_assign f
  obtain ⟨htally, hflag, hflight⟩ :=
    ht.tally hT hm hc (fun x hx => (hr.callers n x hx).2) hr.tally
  refine ⟨hcl, ?_, ?_, ?_, ?_, ?_, ?_⟩
  · rw [List.countP_append]
    exact htally
  · have hle : l'.attempts.sum (·.inFlight) ≤ k :=
      calc l'.attempts.sum (·.inFlight) ≤ l'.attempts.sum fun _ => 1 :=
            Registry.sum_mono Attempt.inFlight_le
        _ = l'.attempts.size := Registry.sum_one
        _ ≤ k := Crowd.size_le hcl
    have := hr.flight
    have := hsum (·.inFlight)
    rw [List.countP_append]
    rcases hflight with hf | ⟨rfl, hlt⟩
    · omega
    · rw [List.countP_nil]
      omega
  · have := hr.rejections
    have := ht.rejections
    have := hsum (·.unrecorded)
    rw [List.countP_append, List.countP_append]
    omega
  · have := hr.alarms
    have := ht.alarms
    have := hsum (·.unannounced)
    rw [List.countP_append, List.countP_append]
    omega
  · intro i hu
    rw [ha, Registry.get?_assign] at hu
    by_cases hi : i = n
    · subst hi
      rw [if_pos rfl] at hu
      rcases ht.recorded_of_unannounced hu with hold | hnew
      · exact List.mem_append_left _ (hr.pending i hold)
      · exact List.mem_append_right _ hnew
    · rw [if_neg hi] at hu
      exact List.mem_append_left _ (hr.pending i hu)
  · refine forall_prefix_append hr.apt ht.length_le fun x hx => ?_
    cases x with
    | recorded i f => exact hflag i f hx
    | announced i e =>
      intro he
      obtain ⟨⟨e', hi⟩, hu⟩ := ht.unannounced_of_isAlarm hx (decide_eq_true he)
      cases hi
      exact hr.pending n hu
    | _ => trivial

theorem run {ms : List Crowd.Move} {fs : List Crowd.Entry}
    (hT : ∀ t ∈ T, ∀ u ∈ T, t - u < g.settings.banLength) (hm : ∀ m ∈ ms, m.Fits client k T)
    (hc : isTrusted g.settings client = false) (hr : Rush g.settings client k T l es)
    (h : l.run? g ms = some (l', fs)) : Rush g.settings client k T l' (es ++ fs) := by
  induction ms generalizing l es fs with
  | nil =>
    cases h
    rwa [List.append_nil]
  | cons m ms ih =>
    obtain ⟨hm₁, hm⟩ := List.forall_mem_cons.1 hm
    rcases hs : l.move? g m with _ | ⟨l₁, fs₁⟩
    · simp [Crowd.run?, hs] at h
    · rw [Crowd.run?_cons hs] at h
      obtain ⟨⟨l₂, fs₂⟩, h₂, he⟩ := Option.map_eq_some_iff.1 h
      cases he
      rw [← List.append_assoc]
      exact ih hm (hr.move hT hm₁ hc hs) h₂

end Rush

/-! ## Bounds -/

/-- **Guessing at once is bounded.**  Let `k` callers log in for one client, which is not trusted and
    had no record, each one login at a time, mixed in any way, and let any two readings of the clock
    be less than the length of a ban apart.  Where `M` failures ban a client, the users turn down at
    most `M + k - 1` logins.  A recorded failure bans the client exactly if it is the one that makes
    `M`, and at most one does.  The ban is announced at most once, after that by the caller whose
    failure it was.  Of the client no more than `M` failures are kept. -/
theorem bounded_of_run? (g : Gateway) (client : String) (k : Nat) (T : List Int) (b : BanList)
    (ms : List Crowd.Move) (l : Crowd) (es : List Crowd.Entry)
    (hc : isTrusted g.settings client = false) (hb : b.get? client = none)
    (hT : ∀ t ∈ T, ∀ u ∈ T, t - u < g.settings.banLength) (hm : ∀ m ∈ ms, m.Fits client k T)
    (h : Crowd.run? g { bans := b } ms = some (l, es)) :
    es.countP (·.isRejection) ≤ g.settings.threshold + k - 1 ∧
    (∀ pre n f, pre ++ [.recorded n f] <+: es →
      (f = true ↔ pre.countP (·.isRecord) + 1 = g.settings.threshold)) ∧
    es.countP (·.isBan) ≤ 1 ∧ es.countP (·.isAlarm) ≤ 1 ∧
    (∀ pre n e, pre ++ [.announced n e] <+: es → e.kind = .clientBanned →
      .recorded n true ∈ pre) ∧
    l.bans.failedAttempts client ≤ g.settings.threshold := by
  have hr : Rush g.settings client k T l es := Rush.run hT hm hc (.fresh hb) h
  have hban : es.countP (·.isBan) ≤ 1 := by
    rw [countP_isBan_of_apt g.settings.threshold_pos hr.apt]
    split_ifs <;> decide
  refine ⟨?_, fun pre n f => hr.apt pre (.recorded n f), hban, ?_,
    fun pre n e => hr.apt pre (.announced n e), hr.tally.failedAttempts_le⟩
  · have := hr.rejections
    have := hr.flight
    have : l.attempts.sum (·.unrecorded) ≤ l.attempts.sum (·.inFlight) :=
      Registry.sum_mono Attempt.unrecorded_le_inFlight
    omega
  · have := hr.alarms
    omega

/-- Two callers pass the ban list, and both are turned down. -/
def neckAndNeck : List Crowd.Move :=
  [.call 0 .post "203.0.113.9" ⟨"ann", "a"⟩, .look 0 0, .judge 0 false, .settle 0 1, .announce 0,
    .announce 0, .call 0 .post "203.0.113.9" ⟨"ann", "b"⟩,
    .call 1 .post "203.0.113.9" ⟨"ann", "c"⟩, .look 0 2, .look 1 2, .judge 0 false, .judge 1 false,
    .settle 1 3, .settle 0 999, .announce 0, .announce 1, .announce 1]

theorem bounded_of_run?_neckAndNeck :
    ∃ l es, Crowd.run? briskGateway {} neckAndNeck = some (l, es) ∧
      es.getLast? = some (.announced 1 (clientBannedEvent "203.0.113.9")) ∧
      .recorded 1 true ∈ es.dropLast ∧ es.countP (·.isRejection) = 3 ∧
      es.countP (·.isRejection) ≤ 2 + 2 - 1 ∧ l.bans.failedAttempts "203.0.113.9" ≤ 2 := by
  obtain ⟨hj, -, -, -, ho, hl⟩ := bounded_of_run? briskGateway "203.0.113.9" 2 [0, 1, 2, 3, 999] {}
    neckAndNeck _ _ rfl rfl (by decide) (by decide) rfl
  exact ⟨_, _, rfl, rfl, ho _ 1 (clientBannedEvent _) ⟨[], rfl⟩ rfl, rfl, hj, hl⟩

end PlatformCore.Session
