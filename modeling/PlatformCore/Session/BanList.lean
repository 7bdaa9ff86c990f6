/-
  The ban list: failed logins per client, and the clients banned for a time.

  A client without a record is clean.  Each failed login adds to its record; the failure that
  reaches the threshold bans it at the time of that failure.  While the ban lasts further
  failures change nothing.  A ban that has lapsed is not swept away: the next time the client
  is looked at, its record is removed, and a failure starts a new one.  Trusted clients are
  never recorded.

  * `BanList.isBanned` tells whether a client is banned and `BanList.recordFailure` records a
    failed login; both may change the list, and both read the clock once;
  * `get?_isBanned_of_ne`, `get?_recordFailure_of_ne`: neither touches another client.
-/
import PlatformCore.Network.Address
import PlatformCore.Registry
import PlatformCore.Settings.Basic

namespace PlatformCore.Session

/-! ## Records -/

/-- What is kept of a client that failed to log in. -/
structure ClientRecord where
  failedAttempts : Nat := 0
  bannedAt : Option Int := none
deriving DecidableEq, Repr

namespace ClientRecord

def maxFailures : Nat := 4294967295

/-- A ban lasts as long as the time since it began falls short of `length`. -/
def BanActive (r : ClientRecord) (now length : Int) : Prop :=
  ∃ t ∈ r.bannedAt, subCapped now t < length

instance (r : ClientRecord) (now length : Int) : Decidable (r.BanActive now length) :=
  match h : r.bannedAt with
  | some t => decidable_of_iff (subCapped now t < length) (by simp [BanActive, h])
  | none => isFalse (by simp [BanActive, h])

/-- The record after one more failure at time `now`: at the threshold it becomes a ban. -/
def fail (r : ClientRecord) (max : Nat) (now : Int) : ClientRecord :=
  let n := min (r.failedAttempts + 1) maxFailures
  { failedAttempts := n, bannedAt := if max ≤ n then some now else r.bannedAt }

end ClientRecord

/-! ## The list -/

/-- Whether a client is exempt from bans. -/
def isTrusted (s : SessionSettings) (client : String) : Bool :=
  s.trustedClients.contains client ||
    (s.trustLoopback && (Network.Address.ofText? client).any (·.isLoopback))

/-- The records of all clients that failed to log in. -/
structure BanList where
  records : Registry String ClientRecord := ∅

namespace BanList

def get? (b : BanList) (client : String) : Option ClientRecord := b.records.get? client

def failedAttempts (b : BanList) (client : String) : Nat :=
  ((b.get? client).map (·.failedAttempts)).getD 0

def size (b : BanList) : Nat := b.records.size

/-- Whether a client is banned, and the list without its record if a ban has lapsed. -/
def isBanned (b : BanList) (s : SessionSettings) (now : Int) (client : String) :
    Bool × BanList :=
  match b.get? client with
  | none => (false, b)
  | some r =>
    if r.bannedAt.isNone then (false, b)
    else if r.BanActive now s.banLength then (true, b)
    else (false, ⟨b.records.erase client⟩)

/-- Records a failed login.  The first component tells whether this failure banned the
    client. -/
def recordFailure (b : BanList) (s : SessionSettings) (now : Int) (client : String) :
    Bool × BanList :=
  if isTrusted s client then (false, b)
  else
    let r := (b.get? client).getD {}
    if r.BanActive now s.banLength then (false, b)
    else
      let r := if r.bannedAt.isSome then {} else r
      let r := r.fail s.maxLoginFailure.toNat now
      (r.bannedAt.isSome, ⟨b.records.insert client r⟩)

variable {b : BanList} {s : SessionSettings} {now : Int} {c d : String}

theorem get?_isBanned_of_ne (h : d ≠ c) : (b.isBanned s now c).2.get? d = b.get? d := by
  simp only [isBanned]
  split
  · rfl
  · split
    · rfl
    · split
      · rfl
      · exact Registry.get?_erase_of_ne h

theorem get?_recordFailure_of_ne (h : d ≠ c) :
    (b.recordFailure s now c).2.get? d = b.get? d := by
  simp only [recordFailure]
  split
  · rfl
  · split
    · rfl
    · exact Registry.get?_insert_of_ne h

theorem recordFailure_of_isTrusted (h : isTrusted s c = true) :
    b.recordFailure s now c = (false, b) := by
  simp [recordFailure, h]

end BanList

end PlatformCore.Session
