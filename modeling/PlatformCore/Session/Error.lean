/-
  Why a session could not be begun or taken up.
-/

namespace PlatformCore.Session

inductive SessionError where
  | invalidToken
  | expiredToken (expiredAt : Int)
  | clientBanned (client : String)
  | emptyLogin
deriving DecidableEq, Repr

namespace SessionError

def message : SessionError → String
  | invalidToken => "Invalid token"
  | expiredToken t => "Token expired at " ++ toString t
  | clientBanned c => "Client " ++ c ++ " is banned"
  | emptyLogin => "Login must not be empty"

/-- The HTTP status of an error.  A ban looks like a wrong password. -/
def status : SessionError → Nat
  | emptyLogin => 400
  | _ => 401

end SessionError

end PlatformCore.Session
