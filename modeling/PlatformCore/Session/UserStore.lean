/-
  The users known by name and password.

  Only the hashes of the passwords are kept.

  * `UserStore.ofEntries` is the store of the settings; of two entries with one login the
    later counts;
  * `UserStore.verify` tells whether a login and a password belong together.
-/
import PlatformCore.Hash.Sha256
import PlatformCore.Registry
import PlatformCore.Settings.Basic
import PlatformCore.Text.Utf8

namespace PlatformCore.Session

/-- What is kept of a password. -/
def passwordDigest (password : String) : List UInt8 := Hash.sha256 (Text.utf8 password)

/-- The digest of the password of each user. -/
structure UserStore where
  digests : Registry String (List UInt8) := ∅

namespace UserStore

def insert (u : UserStore) (login password : String) : UserStore :=
  ⟨u.digests.insert login (passwordDigest password)⟩

def ofEntries (l : List CredentialEntry) : UserStore :=
  l.foldl (fun u e => u.insert e.login e.password) {}

def size (u : UserStore) : Nat := u.digests.size

def verify (u : UserStore) (login password : String) : Bool :=
  u.digests.get? login == some (passwordDigest password)

end UserStore

end PlatformCore.Session
