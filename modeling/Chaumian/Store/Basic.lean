import Chaumian.Store.Row

/-!
The store of a wallet: keysets, invoices and proofs.

A proof is held until it is spent; then its row is archived and never changes again. Every
operation on proofs either does all it was asked to or fails and changes nothing. Lists are in the
order in which their rows were first added.
-/

namespace Chaumian

/-- A row and whether it is archived. -/
structure StoredProof (S : Suite) where
  row : ProofRow S
  archived : Bool
  deriving DecidableEq

/-- The store of a wallet. -/
structure Store (S : Suite) where
  keysets : List (Keyset S)
  /-- The identifiers of the keysets, in the order in which they came. -/
  keysetIds : List KeysetId
  invoices : List Invoice
  proofs : List (StoredProof S)
  deriving DecidableEq

namespace Store

variable {S : Suite}

/-- Why an operation fails. -/
inductive Error (S : Suite) where
  /-- The store cannot be reached. -/
  | unavailable (detail : String)
  /-- A keyset whose identifier is not the one of its keys. -/
  | invalidKeyset
  /-- A proof that is to be reserved is not held unspent. -/
  | notUnspent (y : S.Point)
  /-- A proof that is to be added is archived already. -/
  | alreadySpent
  deriving DecidableEq

/-- The wording of an error. -/
def Error.message : Error S → String
  | .unavailable detail => detail
  | .invalidKeyset => "Unknown or invalid keyset"
  | .notUnspent y => s!"Proof `{Key.publicText S y}` is not unspent"
  | .alreadySpent => "Attempt to update state of spent proof"

/-- A list with an element put in, in place of the first one with the same key. -/
def put [DecidableEq κ] (key : α → κ) (x : α) : List α → List α
  | [] => [x]
  | a :: rest => if key a = key x then x :: rest else a :: put key x rest

/-- A store without anything in it. -/
def empty : Store S := ⟨[], [], [], []⟩

/-- A store that begins with keysets and invoices. -/
def ofLists (keysets : List (Keyset S)) (invoices : List Invoice) : Store S where
  keysets := keysets.foldl (fun all k => put Keyset.id k all) []
  keysetIds := keysets.map (·.id)
  invoices := invoices.foldl (fun all i => put Invoice.id i all) []
  proofs := []

/-- The keyset of an identifier. -/
def keyset? (store : Store S) (id : KeysetId) : Option (Keyset S) :=
  store.keysets.find? (·.id = id)

/-- Adds a keyset; one that is known already is left as it is. -/
def addKeyset (store : Store S) (keyset : Keyset S) : Except (Error S) (Store S) :=
  if !keyset.verifies then .error .invalidKeyset
  else if (store.keyset? keyset.id).isSome then .ok store
  else
    .ok { store with
      keysets := store.keysets ++ [keyset]
      keysetIds := store.keysetIds ++ [keyset.id] }

/-- The invoice of an identifier. -/
def invoice? (store : Store S) (id : String) : Option Invoice :=
  store.invoices.find? (·.id = id)

/-- Adds an invoice, in place of one with the same identifier. -/
def addInvoice (store : Store S) (invoice : Invoice) : Store S :=
  { store with invoices := put Invoice.id invoice store.invoices }

/-- The proofs that are held. -/
def held (store : Store S) : List (ProofRow S) :=
  (store.proofs.filter (!·.archived)).map (·.row)

/-- The proofs that are archived. -/
def archive (store : Store S) : List (ProofRow S) :=
  (store.proofs.filter (·.archived)).map (·.row)

/-- The row of a proof that is held. -/
def held? (store : Store S) (y : S.Point) : Option (ProofRow S) :=
  store.held.find? (·.y = y)

/-- Whether a proof is archived. -/
def isArchived (store : Store S) (y : S.Point) : Bool := store.archive.any (·.y = y)

/-- The proofs held in one of some states, or in any. -/
def heldIn (store : Store S) : (states : Option (List ProofStatus)) → List (ProofRow S)
  | none => store.held
  | some states => store.held.filter (states.contains ·.status)

/-- Changes the row of a proof that is held. -/
def modifyHeld (f : StoredProof S → StoredProof S) (y : S.Point) (store : Store S) : Store S :=
  { store with
    proofs := store.proofs.map fun p => if p.row.y = y ∧ !p.archived then f p else p }

/-- The store with a row that is held. -/
def hold (store : Store S) (row : ProofRow S) : Store S :=
  { store with proofs := put (·.row.y) ⟨row, false⟩ store.proofs }

/-- A row as it is archived: spent, and for the payment it was given for. -/
def StoredProof.archive (meltId : Option String) (p : StoredProof S) : StoredProof S :=
  ⟨{ p.row with status := .spent, meltId := meltId }, true⟩

/-- Archives a proof that is held. -/
def spend (meltId : Option String) (store : Store S) (y : S.Point) : Store S :=
  store.modifyHeld (StoredProof.archive meltId) y

/-- Adds rows and then archives the proofs of some points. -/
def update (store : Store S) (added : List (ProofRow S)) (removed : List S.Point)
    (meltId : Option String) : Except (Error S) (Store S) :=
  if added.any (store.isArchived ·.y) then .error .alreadySpent
  else .ok (removed.foldl (spend meltId) (added.foldl hold store))

/-- Archives proofs. -/
def markSpent (store : Store S) (ys : List S.Point) (meltId : Option String) :
    Except (Error S) (Store S) :=
  store.update [] ys meltId

/-- The state of the row of a proof that is held set to another one. -/
def setStatus (status : ProofStatus) (store : Store S) (y : S.Point) : Store S :=
  store.modifyHeld (fun p => { p with row := { p.row with status := status } }) y

/-- Whether a proof is held in a state. -/
def isHeldIn (store : Store S) (status : ProofStatus) (y : S.Point) : Bool :=
  match store.held? y with
  | some row => row.status = status
  | none => false

/-- Reserves proofs, if all of them are held unspent. -/
def reserve (store : Store S) (ys : List S.Point) : Except (Error S) (Store S) :=
  match ys.find? (!store.isHeldIn .unspent ·) with
  | some y => .error (.notUnspent y)
  | none => .ok (ys.foldl (setStatus .reserved) store)

/-- Frees those of some proofs that are reserved. -/
def unreserve (store : Store S) (ys : List S.Point) : Store S :=
  ys.foldl (fun store y =>
    if store.isHeldIn .reserved y then store.setStatus .unspent y else store) store

end Store

end Chaumian
