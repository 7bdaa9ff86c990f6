/-
  The desk: a gateway at work, serving one request after another.

  The desk holds what lasts between requests: the clock, the ban list, the users, and how
  often these were asked.  Besides the three requests of the gateway it serves those that
  look at its parts: single operations on tokens and on the ban list, and moves of the clock.

  * `Desk.serve` serves one request, and `Desk.serveAll` a list of them; what a request
    brought about besides its reply is its `Trail`.
-/
import PlatformCore.Session.Gateway
import PlatformCore.Session.UserStore

namespace PlatformCore.Session

/-! ## Requests and replies -/

/-- What a desk can be asked. -/
inductive Request where
  | advance (millis : Int)
  | setClock (time : Int)
  | issue (login : String) (ttlSecs : Nat)
  | issueSession (login : String)
  | claims (token : String)
  | validate (token : String)
  | recordFailure (client : String)
  | isBanned (client : String)
  | ensureNotBanned (client : String)
  | isTrusted (client : String)
  | record (client : String)
  | failedAttempts (client : String)
  /-- Begins anew with another key and without bans. -/
  | restart (key : Token.Key)
  | login (method : Http.Method) (client : String) (credentials : Credentials)
  | logout (method : Http.Method)
  | whoAmI (method : Http.Method) (caller : Caller)
  | authenticate (caller : Caller)

/-- What a desk replies. -/
inductive Reply where
  | time (t : Int)
  | token (t : String)
  | claims (c : Claims)
  | login (l : String)
  | flag (b : Bool)
  | done
  | record (r : Option ClientRecord)
  | count (n : Nat)
  | error (e : SessionError)
  | response (r : Response)
  | identity (presented : Bool) (principal : Option String)
deriving DecidableEq, Repr

/-- What a request brought about besides its reply. -/
structure Trail where
  events : List Event := []
  notices : List Notice := []
deriving DecidableEq, Repr

/-! ## The desk -/

/-- A gateway at work. -/
structure Desk where
  gateway : Gateway
  users : UserStore
  clock : Clock
  bans : BanList := {}
  announces : Bool := true
  consultations : Nat := 0
  /-- The token issued last; empty before the first. -/
  lastToken : String := ""

namespace Desk

def reply (d : Desk) (r : Reply) : Desk × Reply × Trail := (d, r, {})

def replyToken (d : Desk) : Except SessionError String → Desk × Reply × Trail
  | .ok token => { d with lastToken := token }.reply (.token token)
  | .error e => d.reply (.error e)

def replyResponse (d : Desk) (r : Response) : Desk × Reply × Trail :=
  (d, .response r, { notices := r.headerNotices })

def validate (d : Desk) (token : String) : Except SessionError Claims :=
  Token.validate d.gateway.key d.clock.now token

def serve (d : Desk) : Request → Desk × Reply × Trail
  | .advance millis =>
    let clock := d.clock.advance millis
    { d with clock := clock }.reply (.time clock.now)
  | .setClock time =>
    let clock := d.clock.set time
    { d with clock := clock }.reply (.time clock.now)
  | .issue login ttlSecs => d.replyToken (Token.issue d.gateway.key d.clock.now login ttlSecs)
  | .issueSession login => d.replyToken (d.gateway.issueSessionToken d.clock.now login)
  | .claims token =>
    d.reply <| match d.validate token with
      | .ok c => .claims c
      | .error e => .error e
  | .validate token =>
    d.reply <| match d.validate token with
      | .ok c => .login c.login
      | .error e => .error e
  | .recordFailure client =>
    let (newlyBanned, bans, notices) := d.gateway.recordFailure d.clock.now client d.bans
    ({ d with bans := bans }, .flag newlyBanned, { notices := notices })
  | .isBanned client =>
    let (banned, bans) := d.bans.isBanned d.gateway.settings d.clock.now client
    { d with bans := bans }.reply (.flag banned)
  | .ensureNotBanned client =>
    match d.gateway.ensureNotBanned d.clock.now client d.bans with
    | (.ok (), bans) => { d with bans := bans }.reply .done
    | (.error e, bans) => { d with bans := bans }.reply (.error e)
  | .isTrusted client => d.reply (.flag (Session.isTrusted d.gateway.settings client))
  | .record client => d.reply (.record (d.bans.get? client))
  | .failedAttempts client => d.reply (.count (d.bans.failedAttempts client))
  | .restart key =>
    { d with gateway := { d.gateway with key := key }, bans := {}, announces := true }.reply .done
  | .login method client credentials =>
    let o := d.gateway.login d.users.verify d.clock.now method client credentials d.bans
    ({ d with
        bans := o.bans
        consultations := d.consultations + o.consulted.toNat
        lastToken := o.token.getD d.lastToken },
      .response o.response,
      { events := if d.announces then o.events else []
        notices := o.notices ++ o.response.headerNotices })
  | .logout method => d.replyResponse (d.gateway.logout method)
  | .whoAmI method caller => d.replyResponse (d.gateway.whoAmI d.clock.now method caller)
  | .authenticate caller =>
    d.reply (.identity caller.token.isSome (d.gateway.authenticate d.clock.now caller))

def serveAll (d : Desk) : List Request → Desk × List (Reply × Trail)
  | [] => (d, [])
  | r :: rs =>
    let (d, result) := d.serve r
    let (d, results) := d.serveAll rs
    (d, result :: results)

end Desk

end PlatformCore.Session
