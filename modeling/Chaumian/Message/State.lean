import Chaumian.Json.Record
import Chaumian.Key

/-!
What a mint knows of proofs: whether it would take them.
-/

namespace Chaumian

open Json (Codec)

/-- The state of a proof at the mint. -/
inductive MintState where
  | spent
  | unspent
  /-- Part of an operation that has not ended. -/
  | pending
  deriving DecidableEq, Repr

namespace MintState

/-- A text is the name of no state. -/
inductive Error where
  | unknown
  deriving DecidableEq, Repr

/-- The wording of an error. -/
def Error.message : Error → String
  | .unknown => "Unknown state"

/-- All states. -/
def all : List MintState := [spent, unspent, pending]

/-- The name of a state. -/
def toText : MintState → String
  | spent => "SPENT"
  | unspent => "UNSPENT"
  | pending => "PENDING"

/-- The state of a name. -/
def ofText (text : String) : Except Error MintState :=
  (all.find? (·.toText = text)).elim (.error .unknown) .ok

/-- States in JSON are their names. -/
def codec : Codec MintState := .variants all toText

end MintState

/-- Asks for the states of proofs, by the points of their secrets. -/
structure CheckStateRequest (S : Suite) where
  ys : List S.Point
  deriving DecidableEq

/-- The state of a proof. -/
structure ProofState (S : Suite) where
  y : S.Point
  state : MintState
  deriving DecidableEq

/-- The states asked for, in the order of the request. -/
structure CheckStateResponse (S : Suite) where
  states : List (ProofState S)
  deriving DecidableEq

namespace ProofState

variable {S : Suite}

/-- Whether the mint would take the proof. -/
def isSpendable (s : ProofState S) : Bool := s.state = .unspent

/-- Whether the proof is part of an operation at the mint. -/
def isPending (s : ProofState S) : Bool := s.state = .pending

/-- Whether the mint has taken the proof. -/
def isSpent (s : ProofState S) : Bool := s.state = .spent

/-- The fields of the state of a proof. -/
def codec (S : Suite) : Codec (ProofState S) :=
  (Codec.record "ProofState"
    (.cons (.required "Y" (Key.publicCodec S)) <|
      .cons (.required "state" MintState.codec) .nil)).map
    (fun (y, state, _) => ⟨y, state⟩) (fun s => (s.y, s.state, ()))

end ProofState

/-- The fields of a request for states. -/
def CheckStateRequest.codec (S : Suite) : Codec (CheckStateRequest S) :=
  (Codec.record "CheckStateRequest"
    (.cons (.required "Ys" (Key.publicCodec S).list) .nil)).map
    (fun (ys, _) => ⟨ys⟩) (fun r => (r.ys, ()))

/-- The fields of the states asked for. -/
def CheckStateResponse.codec (S : Suite) : Codec (CheckStateResponse S) :=
  (Codec.record "CheckStateResponse"
    (.cons (.required "states" (ProofState.codec S).list) .nil)).map
    (fun (states, _) => ⟨states⟩) (fun r => (r.states, ()))

end Chaumian
