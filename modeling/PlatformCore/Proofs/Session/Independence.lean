/-
  Clients of one gateway.

  All clients share a ban list, and their requests come in any order.  Still each is served as if it
  were alone: what comes of its dealings, and its record, are those of the run in which the other
  clients do nothing.  The clock may go any way.

  * a `Call` is a dealing with the client that makes it, and `Call.of` makes one of any dealing;
    `own` are the dealings of one client;
  * `dealAll_own` compares a run with that of one client's own dealings;
  * `independent_of_dealAll` says so for all clients, and counts the records.
-/
import Mathlib.Data.Set.Card
import PlatformCore.Proofs.Session.Omission

namespace PlatformCore.Session

/-! ## Whose a dealing is -/

/-- The client that an errand is for, if it tells. -/
def Errand.client? : Errand → Option String
  | login _ client _ => some client
  | logout _ => none
  | whoAmI _ caller => some caller.client

/-- The client that an inquiry is about, if any. -/
def Inquiry.client? : Inquiry → Option String
  | recordFailure client | isBanned client | ensureNotBanned client => some client
  | record client | failedAttempts client => some client
  | authenticate caller => some caller.client
  | _ => none

/-- The client that a dealing is for or about, if any. -/
def Dealing.client? : Dealing → Option String
  | visit v => v.errand.client?
  | inquiry _ q => q.client?

/-- A dealing, and the client that makes it. -/
structure Call where
  client : String
  dealing : Dealing
  client_eq : ∀ c, dealing.client? = some c → c = client

/-- A dealing as a call of the client that it names, or else of the one given. -/
def Call.of (d : Dealing) (c : String) : Call where
  client := d.client?.getD c
  dealing := d
  client_eq _ h := by rw [h, Option.getD_some]

def own (c : String) (l : List Call) : List Dealing := (l.filter (·.client = c)).map (·.dealing)

variable {d : Dealing} {c : String} {l : List Call} {a : Call}

theorem Dealing.client?_of_lookedUp? (h : d.lookedUp? = some c) : d.client? = some c := by
  obtain ⟨now, verify, e⟩ | ⟨now, q⟩ := d
  · cases e with
    | logout | whoAmI => cases h
    | login => exact (Option.ite_none_right_eq_some.1 h).2
  · cases q with
    | recordFailure | isBanned | ensureNotBanned => exact h
    | _ => cases h

theorem Dealing.client?_of_shown? (h : d.shown? = some c) : d.client? = some c := by
  rcases d with v | ⟨now, q⟩
  · cases h
  · cases q with
    | record | failedAttempts => exact h
    | _ => cases h

theorem marked_map_dealing :
    marked (l.map fun a => (a.dealing, decide (a.client = c))) = own c l := by
  rw [marked, List.filter_map, List.map_map, own]
  rfl

/-! ## One client -/

namespace Gateway

variable {g : Gateway} {b b' : BanList}

/-- A dealing of a client comes to the same wherever its record is the same, and leaves the same
    record. -/
theorem deal_of_get?_eq (ha : a.client = c) (h : b.get? c = b'.get? c) :
    (g.deal b a.dealing).1.get? c = (g.deal b' a.dealing).1.get? c ∧
      (g.deal b a.dealing).2.seen = (g.deal b' a.dealing).2.seen := by
  have hc : ∀ e, a.dealing.client? = some e → e = c := fun e he => (a.client_eq e he).trans ha
  constructor
  · exact get?_deal_congr (R := Eq) (fun _ => rfl) (fun _ => by rw [h]) h
  · refine seen_deal_congr ?_ ?_
    · intro e he
      rw [hc e (Dealing.client?_of_lookedUp? he), h]
    · intro e he
      rw [hc e (Dealing.client?_of_shown? he), h]

theorem get?_deal_of_client_ne (ha : a.client ≠ c) : (g.deal b a.dealing).1.get? c = b.get? c := by
  refine get?_deal_of_ne fun h => ?_
  exact ha (a.client_eq c (Dealing.client?_of_lookedUp? h)).symm

theorem dealAll_own :
    (g.dealAll b (l.map (·.dealing))).1.get? c = (g.dealAll b (own c l)).1.get? c ∧
      (marked ((g.dealAll b (l.map (·.dealing))).2.zip (l.map (·.client = c)))).map (·.2.seen) =
        (g.dealAll b (own c l)).2.map (·.2.seen) := by
  have hk : ∀ p ∈ l.map fun a => (a.dealing, decide (a.client = c)), p.2 = true →
      ∀ b b' : BanList, b.get? c = b'.get? c →
        (g.deal b p.1).1.get? c = (g.deal b' p.1).1.get? c ∧
          (g.deal b p.1).2.seen = (g.deal b' p.1).2.seen := by
    intro p hp ht b b' hb
    obtain ⟨a, -, rfl⟩ := List.mem_map.1 hp
    exact deal_of_get?_eq (of_decide_eq_true ht) hb
  have hl : ∀ p ∈ l.map fun a => (a.dealing, decide (a.client = c)), p.2 = false →
      ∀ b b' : BanList, b.get? c = b'.get? c → (g.deal b p.1).1.get? c = b'.get? c := by
    intro p hp hf b b' hb
    obtain ⟨a, -, rfl⟩ := List.mem_map.1 hp
    exact (get?_deal_of_client_ne (of_decide_eq_false hf)).trans hb
  have hr := runAll_marked (fun _ b b' => BanList.get? b c = b'.get? c)
    (fun b b' => b.get? c = b'.get? c) Upshot.seen
    (List.pairwise_of_forall fun _ _ _ _ h => h) (fun _ _ _ _ h => h) hk hl (fun _ _ => rfl)
    (rfl : b.get? c = b.get? c)
  rwa [marked_map_dealing, List.map_map, List.map_map, ← dealAll_eq_runAll, ← dealAll_eq_runAll]
    at hr

end Gateway

/-! ## All clients -/

theorem BanList.encard_eq_size {b : BanList} : {c | (b.get? c).isSome}.encard = b.size := by
  have hn : b.records.keys.Nodup := b.records.nodup_keys
  have hk : {c | (b.get? c).isSome} = (b.records.keys.toFinset : Set String) := by
    ext c
    rw [List.coe_toFinset]
    exact Registry.mem_keys_iff.symm
  calc {c | (b.get? c).isSome}.encard
    _ = b.records.keys.toFinset.card := by rw [hk, Set.encard_coe_eq_coe_finsetCard]
    _ = b.size := by rw [List.toFinset_card_of_nodup hn, Registry.length_keys, size]

/-- **Clients are independent.**  However the dealings of all clients come one after another, and
    however the clock goes, what comes of those of a client, and its record at the end, are the same
    as if it had been the only one.  So there are as many records as there are clients that would
    have one then. -/
theorem independent_of_dealAll (g : Gateway) (b : BanList) (l : List Call) :
    (∀ c, (g.dealAll b (l.map (·.dealing))).1.get? c = (g.dealAll b (own c l)).1.get? c ∧
      (marked ((g.dealAll b (l.map (·.dealing))).2.zip (l.map (·.client = c)))).map (·.2.seen) =
        (g.dealAll b (own c l)).2.map (·.2.seen)) ∧
    ((g.dealAll b (l.map (·.dealing))).1.size : ENat) =
      {c | ((g.dealAll b (own c l)).1.get? c).isSome}.encard := by
  have h : ∀ c, (g.dealAll b (l.map (·.dealing))).1.get? c =
      (g.dealAll b (own c l)).1.get? c := fun c => Gateway.dealAll_own.1
  refine ⟨fun c => Gateway.dealAll_own, ?_⟩
  simp only [← BanList.encard_eq_size, h]

/-- Two clients by turns, with the clock set back in between: one is banned and has a token looked
    at, which names no client, and the other fails once. -/
def turnAbout : List Call :=
  [.of (.inquiry 5000 (.recordFailure "203.0.113.9")) "", .of (.inquiry 7 (.isBanned "::2")) "",
    .of (.inquiry 5000 (.recordFailure "203.0.113.9")) "",
    .of (.inquiry 3 (.validate "e30.")) "203.0.113.9", .of (.inquiry 8 (.recordFailure "::2")) ""]

/-- A gateway that bans for an hour after two failures. -/
def patientGateway : Gateway where
  settings := { maxLoginFailure := 2, banLengthSecs := 3600 }
  key := []

theorem independent_of_dealAll_turnAbout :
    own "::2" turnAbout = [.inquiry 7 (.isBanned "::2"), .inquiry 8 (.recordFailure "::2")] ∧
    (patientGateway.dealAll {} (turnAbout.map (·.dealing))).1.get? "::2" = some ⟨1, none⟩ ∧
    (marked ((patientGateway.dealAll {} (turnAbout.map (·.dealing))).2.zip
        (turnAbout.map (·.client = "::2")))).map (·.2.seen) =
      [.finding (.flag false), .finding (.flag false)] ∧
    {c | ((patientGateway.dealAll {} (own c turnAbout)).1.get? c).isSome}.encard = 2 := by
  obtain ⟨hown, hcard⟩ := independent_of_dealAll patientGateway {} turnAbout
  obtain ⟨hget, hseen⟩ := hown "::2"
  exact ⟨rfl, hget.trans rfl, hseen.trans rfl, hcard.symm.trans rfl⟩

end PlatformCore.Session
