/-
  The session gateway: logging in, logging out, and asking who one is.

  A login asks three things in turn: whether the client is banned, whether login and password
  belong together, and for a token.  A banned client gets the answer to a wrong password, and
  its credentials are not looked at.  A rejected login is recorded against the client and
  announced by events.

  * `Gateway.login` gives the answer together with all that the login brought about: the ban
    list it leaves, the events and the notices it raised, whether the users were asked, and
    the token it issued;
  * `Gateway.logout` and `Gateway.whoAmI` change nothing;
  * `Response.header?` is the header that goes out with an answer.
-/
import PlatformCore.Event
import PlatformCore.Log.Record
import PlatformCore.Session.BanList
import PlatformCore.Session.Cookie
import PlatformCore.Session.Token

namespace PlatformCore.Session

/-! ## Requests -/

structure Credentials where
  login : String
  password : String
deriving DecidableEq, Repr

/-- Credentials as a message shows them: the password is left out. -/
def Credentials.display (c : Credentials) : String :=
  "Credentials \x7b login: " ++ Text.quote c.login ++ ", password: " ++
    Text.quote "<redacted>" ++ " \x7d"

/-- What is known of the sender of a request. -/
structure Caller where
  /-- The address under which its failures are counted. -/
  client : String
  token : Option String := none
deriving DecidableEq, Repr

def Caller.ofHeaders (client : String) (h : Http.Headers) (c : SessionCookie) : Caller :=
  ⟨client, c.tokenOfHeaders? h⟩

/-! ## Notices -/

/-- What the log is told of. -/
inductive Notice where
  | banned (client : String) (failedAttempts : Nat) (banLength : Int)
  | refused (client login : String) (cause : SessionError)
  | failed (client login : String) (newlyBanned : Bool)
  | notIssued (client : String) (cause : SessionError)
  | unsendableCookie
deriving DecidableEq, Repr

open Log in
def Notice.record : Notice → Record
  | banned client n length =>
    { level := .warn, target := "kernel_auth::ban"
      message := "Client banned after repeated login failures"
      fields := [("client", .text client), ("failed_attempts", .number n),
        ("ban_length_ms", .number length)] }
  | refused client login cause =>
    { level := .warn, target := "kernel_auth::gateway", message := "Login refused"
      fields := [("client", .text client), ("login", .text login),
        ("error", .text cause.message)] }
  | failed client login newlyBanned =>
    { level := .warn, target := "kernel_auth::gateway", message := "Login failed"
      fields := [("client", .text client), ("login", .text login),
        ("newly_banned", .bool newlyBanned)] }
  | notIssued client cause =>
    { level := .warn, target := "kernel_auth::gateway", message := "Token could not be issued"
      fields := [("client", .text client), ("error", .text cause.message)] }
  | unsendableCookie =>
    { level := .warn, target := "kernel_auth::gateway"
      message := "Set-Cookie value is not a valid header"
      fields := [("error", .text "failed to parse header value")] }

/-! ## Answers -/

structure Response where
  status : Nat
  setCookie : Option String := none
  principal : Option String := none
deriving DecidableEq, Repr

namespace Response

def ok (principal setCookie : Option String) : Response := ⟨200, setCookie, principal⟩

/-- The answer to a wrong password, to a banned client, and to a token that does not hold. -/
def unauthorized : Response := { status := 401 }

def methodNotAllowed : Response := { status := 405 }

/-- The header with the cookie, if there is one that can be sent. -/
def header? (r : Response) : Option Http.HeaderValue := r.setCookie.bind Http.HeaderValue.ofText?

def headerNotices (r : Response) : List Notice :=
  if r.setCookie.isSome ∧ r.header?.isNone then [.unsendableCookie] else []

end Response

/-! ## The gateway -/

/-- What does not change while the gateway runs. -/
structure Gateway where
  settings : SessionSettings
  key : Token.Key
deriving Repr

/-- An answer with all that it brought about: the ban list afterwards, events and notices in order,
    whether the users were asked about the credentials, and the token that was issued. -/
structure Outcome where
  response : Response
  bans : BanList
  events : List Event := []
  notices : List Notice := []
  consulted : Bool := false
  token : Option String := none

def gatewayComponent : ComponentId := ⟨"kernel.auth"⟩

def loginFailedEvent (client login : String) : Event where
  originator := some gatewayComponent
  kind := .loginFailed
  description := "Login failed for '" ++ login ++ "' from " ++ client

def clientBannedEvent (client : String) : Event where
  originator := some gatewayComponent
  kind := .clientBanned
  description := "Client " ++ client ++ " banned"

def rejectionEvents (client login : String) (newlyBanned : Bool) : List Event :=
  loginFailedEvent client login :: if newlyBanned then [clientBannedEvent client] else []

namespace Gateway

def cookie (g : Gateway) : SessionCookie := .ofSettings g.settings

def issueSessionToken (g : Gateway) (now : Int) (login : String) : Except SessionError String :=
  Token.issue g.key now login g.settings.tokenTtlSecs.toNat

def ensureNotBanned (g : Gateway) (now : Int) (client : String) (b : BanList) :
    Except SessionError Unit × BanList :=
  match b.isBanned g.settings now client with
  | (true, b) => (.error (.clientBanned client), b)
  | (false, b) => (.ok (), b)

/-- Records a failed login, and tells the log if that banned the client. -/
def recordFailure (g : Gateway) (now : Int) (client : String) (b : BanList) :
    Bool × BanList × List Notice :=
  match b.recordFailure g.settings now client with
  | (true, b) =>
    (true, b, [.banned client (b.failedAttempts client) g.settings.banLength])
  | (false, b) => (false, b, [])

def reject (g : Gateway) (now : Int) (client login : String) (b : BanList) : Outcome :=
  let (newlyBanned, b, notices) := g.recordFailure now client b
  { response := .unauthorized
    bans := b
    events := rejectionEvents client login newlyBanned
    notices := notices ++ [.failed client login newlyBanned]
    consulted := true }

def accept (g : Gateway) (now : Int) (client login : String) (b : BanList) : Outcome :=
  match g.issueSessionToken now login with
  | .ok token =>
    { response := .ok (some login)
        (some (g.cookie.issue token g.settings.tokenTtlSecs.toNat))
      bans := b
      consulted := true
      token := some token }
  | .error e =>
    { response := .unauthorized
      bans := b
      notices := [.notIssued client e]
      consulted := true }

def login (g : Gateway) (verify : String → String → Bool) (now : Int) (m : Http.Method)
    (client : String) (c : Credentials) (b : BanList) : Outcome :=
  if m ≠ .post then { response := .methodNotAllowed, bans := b }
  else
    match g.ensureNotBanned now client b with
    | (.error e, b) =>
      { response := .unauthorized, bans := b, notices := [.refused client c.login e] }
    | (.ok (), b) =>
      if verify c.login c.password then g.accept now client c.login b
      else g.reject now client c.login b

/-- Logs out, by the method that acts: the browser forgets the token, which itself holds until
    it expires. -/
def logout (g : Gateway) (m : Http.Method) : Response :=
  if m ≠ .post then .methodNotAllowed else .ok none (some g.cookie.expire)

def authenticate (g : Gateway) (now : Int) (caller : Caller) : Option String := do
  match Token.validate g.key now (← caller.token) with
  | .ok claims => some claims.login
  | .error _ => none

def whoAmI (g : Gateway) (now : Int) (m : Http.Method) (caller : Caller) : Response :=
  if m ≠ .get then .methodNotAllowed
  else
    match g.authenticate now caller with
    | some login => .ok (some login) none
    | none => .unauthorized

end Gateway

end PlatformCore.Session
