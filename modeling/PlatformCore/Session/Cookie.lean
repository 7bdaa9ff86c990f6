/-
  The session cookie: how a token travels with a browser.

  * `SessionCookie.issue` and `SessionCookie.expire` are the texts sent to a browser to keep a
    token and to forget it;
  * `SessionCookie.tokenOfCookies?` finds the token among the cookies of one header value, and
    `SessionCookie.tokenOfHeaders?` in a request: in the first cookie header that has one, or
    else behind `Bearer ` in the first authorization header.
-/
import PlatformCore.Http.Message
import PlatformCore.Settings.Basic
import PlatformCore.Text.Blank

namespace PlatformCore.Session

/-- The name and the path under which a browser keeps the token. -/
structure SessionCookie where
  name : String
  path : String
deriving DecidableEq, Repr

namespace SessionCookie

def ofSettings (s : SessionSettings) : SessionCookie := ⟨s.cookieName, s.cookiePath⟩

/-! ## Sending -/

/-- What a browser is told about every cookie: where it belongs, to send it over secure
    connections only, and to keep it from scripts. -/
def attributes (c : SessionCookie) (maxAgeSecs : Nat) : String :=
  "; Max-Age=" ++ toString maxAgeSecs ++ "; Path=" ++ c.path ++ "; Secure; HttpOnly"

/-- The text by which a browser keeps a token for some seconds. -/
def issue (c : SessionCookie) (token : String) (maxAgeSecs : Nat) : String :=
  c.name ++ "=" ++ token ++ c.attributes maxAgeSecs

/-- The text by which a browser forgets the token. -/
def expire (c : SessionCookie) : String := c.name ++ "=" ++ c.attributes 0

/-! ## Receiving -/

def splitPair? (l : List Char) : Option (List Char × List Char) :=
  match l.dropWhile (· ≠ '=') with
  | [] => none
  | _ :: value => some (l.takeWhile (· ≠ '='), value)

def nonempty? (l : List Char) : Option String := if l = [] then none else some (String.ofList l)

/-- The token in a cookie header: the value of the first cookie of this name, if not empty. -/
def tokenOfCookies? (c : SessionCookie) (header : String) : Option String := do
  let pairs := (header.toList.splitOn ';').filterMap fun p => splitPair? (Text.trim p)
  let pair ← pairs.find? fun p => p.1 = c.name.toList
  nonempty? (Text.trim pair.2)

def bearer : List Char := "Bearer ".toList

def tokenOfAuthorization? (header : String) : Option String :=
  if bearer.isPrefixOf header.toList then
    nonempty? (Text.trim (header.toList.drop bearer.length))
  else none

def tokenOfHeaders? (c : SessionCookie) (h : Http.Headers) : Option String :=
  let cookies := (h.values .cookie).filterMap fun v => v.text?
  match cookies.findSome? c.tokenOfCookies? with
  | some token => some token
  | none => do
    let value ← (h.values .authorization).head?
    tokenOfAuthorization? (← value.text?)

end SessionCookie

end PlatformCore.Session
