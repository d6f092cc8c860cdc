import Chaumian.Hash.Sha256
import Chaumian.Json.Record
import Chaumian.Keyset.Id
import Chaumian.Keyset.Keys

/-!
Keysets: the keys a mint has published under one identifier, which follows from the keys.
-/

namespace Chaumian

/-- The identifier of keys: the first nine bytes of the digest of their texts, smallest amount
first, one after the other. -/
def Keys.id {S : Suite} (keys : Keys S) : KeysetId where
  bytes := (Sha256.hash (keys.entries.flatMap fun (_, key) =>
    Bytes.ofText (Key.publicText S key))).take 9
  length_bytes := by simp

/-- A keyset. -/
structure Keyset (S : Suite) where
  id : KeysetId
  keys : Keys S
  deriving DecidableEq

namespace Keyset

variable {S : Suite}

/-- The keyset of keys. -/
def ofKeys (keys : Keys S) : Keyset S := ⟨keys.id, keys⟩

/-- Whether the identifier is the one of the keys. -/
def verifies (keyset : Keyset S) : Bool := keyset.keys.id = keyset.id

/-- The fields of a keyset in JSON. -/
def codec (S : Suite) : Json.Codec (Keyset S) :=
  (Json.Codec.record "KeySet"
    (.cons (.required "id" KeysetId.codec) <|
      .cons (.required "keys" (Keys.codec S)) .nil)).map
    (fun (id, keys, _) => ⟨id, keys⟩)
    (fun keyset => (keyset.id, keyset.keys, ()))

end Keyset

/-- The keysets a mint has published, the current one last. -/
structure KeysetList where
  ids : List KeysetId
  deriving DecidableEq

/-- The fields of a list of keysets in JSON. -/
def KeysetList.codec : Json.Codec KeysetList :=
  (Json.Codec.record "KeysetResponse"
    (.cons (.required "keysets" KeysetId.codec.list) .nil)).map
    (fun (ids, _) => ⟨ids⟩) (fun list => (list.ids, ()))

end Chaumian
