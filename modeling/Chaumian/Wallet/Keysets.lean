import Chaumian.Wallet.Operation
import Chaumian.Wallet.Settings

/-!
The keysets a wallet knows. They are checked against their identifiers before they are stored, and
one that is stored is not asked for again.
-/

namespace Chaumian.Wallet

open Operation

variable {S : Suite}

/-- Asks the mint for its current keyset. -/
def fetchKeys : Operation S (Keyset S) := do
  let keyset ← askMint .keys
  if !keyset.verifies then
    throw (.malformedResponse s!"keyset {keyset.id.toText} does not match its keys")
  askStore (.addKeyset keyset)
  askMemory (.setCurrent keyset.id)
  return keyset

/-- The keyset of an identifier, from the store or else from the mint. -/
def fetchKeysOf (id : KeysetId) : Operation S (Keyset S) := do
  match ← askStore (.keyset id) with
  | some keyset => return keyset
  | none =>
    let keyset ← askMint (.keyset id)
    if keyset.id ≠ id || !keyset.verifies then
      throw (.malformedResponse s!"asked for keyset {id.toText}, got {keyset.id.toText}")
    askStore (.addKeyset keyset)
    return keyset

/-- The identifiers of the mint's keysets, the current one last. If that is another one than the
wallet takes for current, it forgets which one is. -/
def fetchKeysetIds : Operation S (List KeysetId) := do
  let ids := (← askMint .keysets).ids
  askMemory (.retain ids.getLast?)
  return ids

/-- The current keyset, if it is known. -/
def cachedCurrent : Operation S (Option (Keyset S)) := do
  match ← askMemory .current with
  | some id => askStore (.keyset id)
  | none => return none

/-- The current keyset. -/
def currentKeyset : Operation S (Keyset S) := do
  match ← cachedCurrent with
  | some keyset => return keyset
  | none => fetchKeys

/-- The denominations of the current keyset or, while that is not known, of the settings. -/
def denominations (settings : Settings) : Operation S Denominations := do
  match ← cachedCurrent with
  | some keyset => return keyset.keys.denominations
  | none => return settings.denominations

/-- Fetches keysets one after the other. -/
def fetchAll : List KeysetId → Operation S Unit
  | [] => return ()
  | id :: rest => do
    let _ ← fetchKeysOf id
    fetchAll rest

/-- Makes the mint's keysets known. -/
def «open» : Operation S Unit := do
  let _ ← fetchKeys
  fetchAll (← fetchKeysetIds)

/-- What the mint tells about itself. -/
def info : Operation S (MintInfo S) := askMint .info

end Chaumian.Wallet
