import DigAccount.Foundation.KeyedList
import DigAccount.Foundation.Validator
import DigAccount.Registry.Records

namespace DigAccount

structure ProfileRegistry where
  entries : List ProfileEntry
  active : Option ProfileIx
  inProgress : List ProfileMintInProgress
  deriving DecidableEq, Repr

inductive Mutation (α : Type) where
  | panicked (reason : String)
  | returned (result : Except AccountError α) (after : ProfileRegistry)

namespace ProfileRegistry

open Validator KeyedList

def empty : ProfileRegistry where
  entries := []
  active := none
  inProgress := []

def indices (r : ProfileRegistry) : List ProfileIx :=
  r.entries.map ProfileEntry.ix ++ r.inProgress.map ProfileMintInProgress.ix

def live (r : ProfileRegistry) : List ProfileEntry := r.entries.filter ProfileEntry.isLive

def shown (r : ProfileRegistry) : List ProfileEntry :=
  r.entries.filter fun entry => entry.isLive && entry.isShown

def get (r : ProfileRegistry) (ix : ProfileIx) : Option ProfileEntry :=
  r.entries.find? fun entry => entry.ix = ix

def contains (r : ProfileRegistry) (ix : ProfileIx) : Bool := (r.get ix).isSome

def entryMut (r : ProfileRegistry) (ix : ProfileIx) (f : ProfileEntry → ProfileEntry) :
    ProfileRegistry :=
  { r with entries := modifyFirst (fun entry => entry.ix = ix) f r.entries }

def holderOf (r : ProfileRegistry) (launcherId : Bytes32) : Option ProfileIx :=
  (r.entries.find? fun entry => entry.anchor.launcherId = launcherId).map ProfileEntry.ix

def mintPosition (r : ProfileRegistry) (ix : ProfileIx) : Option Nat :=
  r.inProgress.findIdx? fun mint => mint.ix = ix

def nextFreeIx (r : ProfileRegistry) : Option ProfileIx :=
  match r.indices.max? with
  | some ix => if h : ix.val + 1 < 4294967296 then some ⟨ix.val + 1, h⟩ else none
  | none => some ProfileIx.root

def checkActive (r : ProfileRegistry) : Except String Unit :=
  match r.active, r.live.head?.isNone with
  | none, false => .error "live entries are present but no profile is active"
  | some ix, true => .error s!"profile {ix} is active but the registry has no live profile"
  | some ix, false =>
      match r.get ix with
      | none => .error s!"the active index {ix} names no confirmed profile"
      | some entry => do
          refuseWhen (entry.isLive = false)
            (s!"the active profile {ix} has ended on chain, so every surface reading it " ++
              "would assert a profile that no longer exists")
          refuseWhen (entry.isShown = false)
            (s!"the active profile {ix} is hidden, which would list nothing while the " ++
              "wallet derives there")
  | none, true => .ok ()

variable [DidEncoding]

def checkEntry (entry : ProfileEntry) : Except String Unit := do
  let anchor := entry.anchor
  let ix := entry.ix
  let launchedFrom := (anchor.storeLaunchedFrom.map hex32).getD ""
  refuseWhen (anchor.did ≠ didStringFromLauncherId anchor.launcherId)
    s!"profile {ix}'s DID string does not belong to its launcher id"
  refuseWhen (anchor.didConfirmedHeight = 0)
    (s!"profile {ix}'s did_confirmed_height is 0, which no on-chain confirmation can " ++
      "produce; MintedDid::from_confirmed refuses it")
  refuseWhen (anchor.storeConfirmedHeight = 0)
    (s!"profile {ix}'s store_confirmed_height is 0, which no on-chain confirmation " ++
      "can produce; ConfirmedStore::from_confirmed refuses it")
  refuseWhen (anchor.pairingHolds = false)
    (s!"profile {ix}'s store was launched from DID coin {launchedFrom}, " ++
      s!"not from its own DID coin {hex32 anchor.didCoinId}; the two halves are not one mint")
  refuseWhen (entry.ended.any fun ended => ended.atHeight = 0)
    (s!"profile {ix}'s end height is 0, which no confirmed melt can produce; " ++
      "ProfileEnd::at refuses it")

def checkMintedDid (ix : ProfileIx) (did : MintedDidRecord) : Except String Unit := do
  refuseWhen (did.did ≠ didStringFromLauncherId did.launcherId)
    s!"the DID journalled at {ix} does not belong to its launcher id"
  refuseWhen (did.confirmedHeight = 0)
    s!"the DID journalled at {ix} claims to have confirmed at height 0"

def checkMint (mint : ProfileMintInProgress) : Except String Unit := do
  refuseWhen (maxMintFeeMojos < mint.storeFee)
    (s!"the mint journalled at {mint.ix} discloses a store fee of {mint.storeFee} mojos, " ++
      s!"above the {maxMintFeeMojos} mojo ceiling")
  each (checkMintedDid mint.ix) mint.stage.mintedDids

def check (r : ProfileRegistry) : Except String Unit := do
  distinct id (fun _ ix =>
    s!"index {ix} appears twice: an index is confirmed or in progress, never both") [] r.indices
  r.checkActive
  distinct (fun entry : ProfileEntry => entry.anchor.launcherId) (fun first second =>
    s!"profiles {first.ix} and {second.ix} both claim identity {second.anchor.did}; " ++
      "one DID cannot be two profiles, because each index derives its own wallet key and " ++
      "its own DEK") [] r.entries
  each checkEntry r.entries
  each checkMint r.inProgress

def expectValid {α : Type} (r : ProfileRegistry) (value : α) : Mutation α :=
  match r.check with
  | .ok _ => .returned (.ok value) r
  | .error reason => .panicked reason

def recordMinted (r : ProfileRegistry) (ix : ProfileIx) (did : MintedDid) (store : ConfirmedStore)
    (label : Option String) : Mutation ProfileEntry :=
  if r.contains ix then .returned (.error (.profileAlreadyRegistered ix)) r
  else
    match r.holderOf did.launcherId with
    | some existing =>
        .returned (.error (.profileIdentityAlreadyRegistered existing did.did)) r
    | none =>
        match ProfileAnchor.fromConfirmed did store with
        | .error e => .returned (.error e) r
        | .ok anchor =>
            let entry := ProfileEntry.new ix anchor label
            expectValid {
              entries := r.entries.insertIdx (partitionPoint (fun e => e.ix < ix) r.entries) entry
              active := if r.active.isNone then some ix else r.active
              inProgress := r.inProgress.filter fun mint => mint.ix ≠ ix } entry

def setActive (r : ProfileRegistry) (ix : ProfileIx) : Mutation ActiveSwitch :=
  match r.get ix with
  | none => .returned (.error (.profileNotFound ix)) r
  | some entry =>
      if entry.isLive = false then .returned (.error (.profileEnded ix)) r
      else
        expectValid { r.entryMut ix (·.setVisibility .shown) with active := some ix }
          { fromIx := r.active, toIx := ix }

def setVisibility (r : ProfileRegistry) (ix : ProfileIx) (v : ProfileVisibility) : Mutation Unit :=
  if r.contains ix = false then .returned (.error (.profileNotFound ix)) r
  else if v = .hiddenFromLists ∧ r.active = some ix then
    .returned (.error (.activeProfileCannotBeHidden ix)) r
  else
    expectValid (r.entryMut ix (·.setVisibility v)) ()

def recordMelted (r : ProfileRegistry) (ix : ProfileIx) (atHeight : Nat) :
    Mutation ProfileEndOutcome :=
  match ProfileEnd.at atHeight with
  | .error e => .returned (.error e) r
  | .ok ended =>
      match r.get ix with
      | none => .returned (.error (.profileNotFound ix)) r
      | some entry =>
          if entry.isLive = false then .returned (.ok .alreadyEnded) r
          else
            let after := r.entryMut ix (·.setEnd ended)
            if r.active ≠ some ix then expectValid after .recorded
            else
              match after.live.head?.map ProfileEntry.ix with
              | some successor =>
                  expectValid { after with active := some successor }
                    (.activeMoved { fromIx := some ix, toIx := successor })
              | none => expectValid { after with active := none } .noLiveProfileRemains

def setLabel (r : ProfileRegistry) (ix : ProfileIx) (label : Option String) : Mutation Unit :=
  if r.contains ix = false then .returned (.error (.profileNotFound ix)) r
  else
    .returned (.ok ()) (r.entryMut ix (·.setLabel label))

def reserve (r : ProfileRegistry) (mint : ProfileMintInProgress) : Mutation Unit :=
  if r.contains mint.ix then .returned (.error (.profileAlreadyRegistered mint.ix)) r
  else if (r.mintPosition mint.ix).isSome then
    .returned (.error (.mintAlreadyInProgress mint.ix)) r
  else if maxMintFeeMojos < mint.storeFee then
    .returned (.error (.mintFeeAboveCeiling mint.storeFee maxMintFeeMojos)) r
  else
    expectValid { r with
      inProgress :=
        r.inProgress.insertIdx (partitionPoint (fun m => m.ix < mint.ix) r.inProgress) mint } ()

def beginMint (r : ProfileRegistry) (ix : ProfileIx) (stage : MintStage) (storeFee : Nat) :
    Mutation Unit :=
  r.reserve (.new ix stage storeFee)

def beginSeededMint (r : ProfileRegistry) (ix : ProfileIx) (stage : MintStage)
    (seedRoot : Bytes32) (storeFee : Nat) : Mutation Unit :=
  r.reserve (.withSeedRoot ix stage seedRoot storeFee)

def advanceMint (r : ProfileRegistry) (ix : ProfileIx) (stage : MintStage) : Mutation Unit :=
  match r.mintPosition ix with
  | none => .returned (.error (.profileNotFound ix)) r
  | some position =>
      .returned (.ok ()) { r with inProgress := r.inProgress.modify position (·.setStage stage) }

def abandonMint (r : ProfileRegistry) (ix : ProfileIx) : Mutation Unit :=
  match r.mintPosition ix with
  | none => .returned (.error (.profileNotFound ix)) r
  | some position => expectValid { r with inProgress := r.inProgress.eraseIdx position } ()

end ProfileRegistry

structure RawProfileRegistry where
  entries : List ProfileEntry
  active : Option ProfileIx
  inProgress : List ProfileMintInProgress
  deriving DecidableEq, Repr

class RegistryJson where
  parse : String → Except String RawProfileRegistry
  print : RawProfileRegistry → Except String String

namespace ProfileRegistry

def intoRaw (r : ProfileRegistry) : RawProfileRegistry where
  entries := r.entries
  active := r.active
  inProgress := r.inProgress

def tryFrom [DidEncoding] (raw : RawProfileRegistry) : Except String ProfileRegistry :=
  let registry : ProfileRegistry := {
    entries := raw.entries.mergeSort fun a b => a.ix ≤ b.ix
    active := raw.active
    inProgress := raw.inProgress.mergeSort fun a b => a.ix ≤ b.ix }
  match registry.check with
  | .ok _ => .ok registry
  | .error reason => .error reason

def fromJson [DidEncoding] [RegistryJson] (json : String) : Except AccountError ProfileRegistry :=
  match RegistryJson.parse json with
  | .error reason => .error (.registryInvariant reason)
  | .ok raw =>
      match tryFrom raw with
      | .error reason => .error (.registryInvariant reason)
      | .ok registry => .ok registry

def toJson [RegistryJson] (r : ProfileRegistry) : Except AccountError String :=
  match RegistryJson.print r.intoRaw with
  | .error reason => .error (.registryInvariant s!"serialize: {reason}")
  | .ok json => .ok json

end ProfileRegistry

end DigAccount
