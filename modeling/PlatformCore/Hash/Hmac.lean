/-
  The message authentication code HMAC with SHA-256.

  A key is brought to one block of 64 bytes; the message is hashed behind the key masked in
  one way, and the result behind the key masked in another.

  * `hmac key message` is the code; it has 32 bytes (`length_hmac`).
-/
import PlatformCore.Hash.Sha256

namespace PlatformCore.Hash

/-- A key as one block: a long key is hashed, a short one filled with zeros. -/
def keyBlock (key : List UInt8) : List UInt8 :=
  let k := if key.length ≤ 64 then key else sha256 key
  k ++ List.replicate (64 - k.length) 0

/-- The authentication code of a message under a key. -/
def hmac (key message : List UInt8) : List UInt8 :=
  let k := keyBlock key
  sha256 (k.map (· ^^^ 0x5c) ++ sha256 (k.map (· ^^^ 0x36) ++ message))

@[simp] theorem length_hmac (k m : List UInt8) : (hmac k m).length = 32 := rfl

end PlatformCore.Hash
