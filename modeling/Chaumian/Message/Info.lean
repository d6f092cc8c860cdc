import Chaumian.Json.Record
import Chaumian.Key

/-!
What a mint tells about itself.
-/

namespace Chaumian

open Json (Codec)

/-- A way to reach who runs a mint. -/
structure Contact where
  method : String
  info : String
  deriving DecidableEq

/-- What a mint tells about itself. -/
structure MintInfo (S : Suite) where
  name : Option String
  publicKey : Option S.Point
  version : Option String
  description : Option String
  contact : List Contact
  /-- The message of the day. -/
  motd : Option String
  deriving DecidableEq

/-- The fields of a contact. -/
def Contact.codec : Codec Contact :=
  (Codec.record "ContactInfo"
    (.cons (.required "method" Codec.string) <|
      .cons (.required "info" Codec.string) .nil)).map
    (fun (method, info, _) => ⟨method, info⟩) (fun c => (c.method, c.info, ()))

/-- The fields of what a mint tells about itself. -/
def MintInfo.codec (S : Suite) : Codec (MintInfo S) :=
  (Codec.record "MintInfo"
    (.cons (.nullable "name" Codec.string) <|
      .cons (.omittable "pubkey" (Key.publicCodec S)) <|
        .cons (.omittable "version" Codec.string) <|
          .cons (.omittable "description" Codec.string) <|
            .cons (.omittableList "contact" Contact.codec) <|
              .cons (.omittable "motd" Codec.string) .nil)).map
    (fun (name, publicKey, version, description, contact, motd, _) =>
      ⟨name, publicKey, version, description, contact, motd⟩)
    (fun i => (i.name, i.publicKey, i.version, i.description, i.contact, i.motd, ()))

end Chaumian
