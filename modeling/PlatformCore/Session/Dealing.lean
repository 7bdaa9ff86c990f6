/-
  Dealings: all that a gateway and its parts are asked, one after another.

  Besides the visits of clients there are the inquiries of the platform itself: it issues and reads
  tokens, and calls on the ban list.  Each dealing brings its own reading of the clock, so the
  clock may go any way between two of them.

  * `Gateway.deal` is one dealing, and `Gateway.dealAll` a list of them, each with the ban list that
    the one before left; what came of a dealing is its `Upshot`;
  * `Desk.serve_inquiry`: a desk serves an inquiry as its gateway deals with it.
-/
import PlatformCore.Session.Visit

namespace PlatformCore.Session

/-! ## Inquiries -/

/-- What the platform asks of a gateway. -/
inductive Inquiry where
  | issue (login : String) (ttlSecs : Nat)
  | issueSession (login : String)
  | claims (token : String)
  | validate (token : String)
  | authenticate (caller : Caller)
  | recordFailure (client : String)
  | isBanned (client : String)
  | ensureNotBanned (client : String)
  | record (client : String)
  | failedAttempts (client : String)

/-- What comes of an inquiry. -/
inductive Finding where
  | token (t : Except SessionError String)
  | claims (c : Except SessionError Claims)
  | login (l : Except SessionError String)
  | principal (p : Option String)
  | flag (b : Bool)
  | leave (r : Except SessionError Unit)
  | record (r : Option ClientRecord)
  | count (n : Nat)

/-! ## Dealings -/

/-- A visit, or an inquiry at a reading of the clock. -/
inductive Dealing where
  | visit (v : Visit)
  | inquiry (now : Int) (q : Inquiry)

/-- What comes of a dealing. -/
inductive Upshot where
  | outcome (o : Outcome)
  | finding (f : Finding)

def Dealing.now : Dealing → Int
  | visit v => v.now
  | inquiry now _ => now

namespace Gateway

/-- Answers an inquiry; the first component is the ban list afterwards. -/
def inquire (g : Gateway) (b : BanList) (now : Int) : Inquiry → BanList × Finding
  | .issue login ttlSecs => (b, .token (Token.issue g.key now login ttlSecs))
  | .issueSession login => (b, .token (g.issueSessionToken now login))
  | .claims token => (b, .claims (Token.validate g.key now token))
  | .validate token => (b, .login ((Token.validate g.key now token).map (·.login)))
  | .authenticate caller => (b, .principal (g.authenticate now caller))
  | .recordFailure client =>
    let r := g.recordFailure now client b
    (r.2.1, .flag r.1)
  | .isBanned client =>
    let r := b.isBanned g.settings now client
    (r.2, .flag r.1)
  | .ensureNotBanned client =>
    let r := g.ensureNotBanned now client b
    (r.2, .leave r.1)
  | .record client => (b, .record (b.get? client))
  | .failedAttempts client => (b, .count (b.failedAttempts client))

def deal (g : Gateway) (b : BanList) : Dealing → BanList × Upshot
  | .visit v =>
    let o := g.serve b v
    (o.bans, .outcome o)
  | .inquiry now q =>
    let r := g.inquire b now q
    (r.1, .finding r.2)

def dealAll (g : Gateway) (b : BanList) : List Dealing → BanList × List (Dealing × Upshot)
  | [] => (b, [])
  | d :: ds =>
    let r := g.deal b d
    let (b, history) := g.dealAll r.1 ds
    (b, (d, r.2) :: history)

end Gateway

/-! ## At a desk -/

def Inquiry.request : Inquiry → Request
  | issue login ttlSecs => .issue login ttlSecs
  | issueSession login => .issueSession login
  | claims token => .claims token
  | validate token => .validate token
  | authenticate caller => .authenticate caller
  | recordFailure client => .recordFailure client
  | isBanned client => .isBanned client
  | ensureNotBanned client => .ensureNotBanned client
  | record client => .record client
  | failedAttempts client => .failedAttempts client

def Finding.reply (q : Inquiry) : Finding → Reply
  | token (.ok t) => .token t
  | claims (.ok c) => .claims c
  | login (.ok l) => .login l
  | token (.error e) | claims (.error e) | login (.error e) | leave (.error e) => .error e
  | principal p => .identity (match q with | .authenticate c => c.token.isSome | _ => false) p
  | flag b => .flag b
  | leave (.ok ()) => .done
  | record r => .record r
  | count n => .count n

/-- A desk serves an inquiry as its gateway deals with it, at the reading of its own clock. -/
theorem Desk.serve_inquiry (d : Desk) (q : Inquiry) (r : BanList × Finding)
    (hr : r = d.gateway.inquire d.bans d.clock.now q) :
    (d.serve q.request).1.bans = r.1 ∧ (d.serve q.request).2.1 = r.2.reply q := by
  subst hr
  cases q with
  | issue login ttl =>
    simp only [Inquiry.request, serve, Gateway.inquire]
    rcases Token.issue d.gateway.key d.clock.now login ttl with _ | _ <;> exact ⟨rfl, rfl⟩
  | issueSession login =>
    simp only [Inquiry.request, serve, Gateway.inquire]
    rcases d.gateway.issueSessionToken d.clock.now login with _ | _ <;> exact ⟨rfl, rfl⟩
  | claims token | validate token =>
    simp only [Inquiry.request, serve, Desk.validate, Gateway.inquire]
    rcases Token.validate d.gateway.key d.clock.now token with _ | _ <;> exact ⟨rfl, rfl⟩
  | ensureNotBanned client =>
    simp only [Inquiry.request, serve, Gateway.inquire]
    rcases d.gateway.ensureNotBanned d.clock.now client d.bans with ⟨_ | _, b⟩ <;>
      exact ⟨rfl, rfl⟩
  | _ => exact ⟨rfl, rfl⟩

end PlatformCore.Session
