/-
  Bearer tokens.

  A token is the Base64 text of a payload and its authentication code.  The payload is the
  login in UTF-8 followed by the time of expiry as eight bytes; the code is the HMAC of the
  payload under the key of the authenticator.  Nothing separates the parts: the code and the
  expiry are taken from the end, where their lengths are fixed.

  * `Token.issue` makes a token and `Token.validate` takes one up;
  * `Token.text` is the one text of given claims, and `issue_eq_ok_iff` says that it is what
    is issued;
  * `splitFromEnd_append`, `splitFromEnd_eq`: parts are taken off as they were put together.
-/
import PlatformCore.Base64
import PlatformCore.Hash.Hmac
import PlatformCore.Session.Error
import PlatformCore.Text.Blank
import PlatformCore.Text.Utf8
import PlatformCore.Word

namespace PlatformCore.Session

/-- What a token says. -/
structure Claims where
  login : String
  /-- The last moment at which the token holds. -/
  expiresAt : Int
deriving DecidableEq, Repr

def splitFromEnd {α : Type} (n : Nat) (l : List α) : List α × List α :=
  l.splitAt (l.length - n)

theorem splitFromEnd_append {α : Type} {n : Nat} {a b : List α} (h : b.length = n) :
    splitFromEnd n (a ++ b) = (a, b) := by
  simp [splitFromEnd, List.splitAt_eq, h]

theorem splitFromEnd_eq {α : Type} {n : Nat} {l a b : List α} (h : splitFromEnd n l = (a, b)) :
    l = a ++ b := by
  simp only [splitFromEnd, List.splitAt_eq, Prod.mk.injEq] at h
  rw [← h.1, ← h.2, List.take_append_drop]

theorem length_splitFromEnd {α : Type} {n : Nat} {l a b : List α}
    (h : splitFromEnd n l = (a, b)) (hn : n ≤ l.length) : b.length = n := by
  simp only [splitFromEnd, List.splitAt_eq, Prod.mk.injEq] at h
  rw [← h.2, List.length_drop]; omega

namespace Token

abbrev Key := List UInt8

def codeLength : Nat := 32

def expiryLength : Nat := 8

/-- The bytes that the code vouches for. -/
def payload (name : List UInt8) (expiresAt : Int) : List UInt8 := name ++ Word.bytes expiresAt

/-- The text of a payload with its code. -/
def sealed (key : Key) (p : List UInt8) : List Char := Base64.encode (p ++ Hash.hmac key p)

def text (key : Key) (c : Claims) : String :=
  String.ofList (sealed key (payload (Text.utf8 c.login) c.expiresAt))

/-- The time at which a token issued at `now` for `ttlSecs` seconds expires. -/
def expiry (now : Int) (ttlSecs : Nat) : Int := addCapped now (millisOfSeconds ttlSecs)

def issue (key : Key) (now : Int) (login : String) (ttlSecs : Nat) :
    Except SessionError String :=
  if login = "" then .error .emptyLogin
  else .ok (text key ⟨login, expiry now ttlSecs⟩)

/-- Takes up a token: blanks around it do not matter, the code is checked before the expiry,
    and the expiry before the login. -/
def validate (key : Key) (now : Int) (token : String) : Except SessionError Claims :=
  match Base64.decode? (Text.trim token.toList) with
  | none => .error .invalidToken
  | some bytes =>
    if bytes.length ≤ codeLength + expiryLength then .error .invalidToken
    else
      let (p, code) := splitFromEnd codeLength bytes
      if Hash.hmac key p ≠ code then .error .invalidToken
      else
        let (name, expiry) := splitFromEnd expiryLength p
        let expiresAt := Word.ofBytes expiry
        if expiresAt < now then .error (.expiredToken expiresAt)
        else
          match Text.ofUtf8? name with
          | some login => .ok ⟨login, expiresAt⟩
          | none => .error .invalidToken

variable {key : Key} {now : Int} {login token : String} {ttl : Nat}

theorem issue_eq_ok_iff :
    issue key now login ttl = .ok token ↔
      login ≠ "" ∧ token = text key ⟨login, expiry now ttl⟩ := by
  simp only [issue]
  split <;> simp_all [eq_comm]

end Token

end PlatformCore.Session
