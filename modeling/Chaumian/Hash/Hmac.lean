import Chaumian.Hash.Sha256

/-!
The keyed digest HMAC over SHA-256.
-/

namespace Chaumian.Hmac

/-- A key filled up to one block; a longer key is digested first. -/
def blockKey (key : Bytes) : Bytes :=
  let key := if key.length ≤ 64 then key else Sha256.hash key
  key ++ List.replicate (64 - key.length) 0

/-- The digest of a message under a key. -/
def mac (key message : Bytes) : Bytes :=
  let key := blockKey key
  Sha256.hash (key.map (· ^^^ 0x5c) ++ Sha256.hash (key.map (· ^^^ 0x36) ++ message))

@[simp] theorem length_mac (key message : Bytes) : (mac key message).length = 32 := by
  simp [mac]

end Chaumian.Hmac
