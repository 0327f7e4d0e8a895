import DigAccount.Mint.Evidence

namespace DigAccount

structure PendingMintRecord where
  launcherId : Bytes32
  didCoinId : Bytes32
  sourceCoinId : Bytes32
  pushedAtHeight : Nat
  deriving DecidableEq, Repr

structure MintedDidRecord where
  did : String
  launcherId : Bytes32
  coinId : Bytes32
  confirmedHeight : Nat
  deriving DecidableEq, Repr

structure PendingStoreLaunchRecord where
  launcherId : Bytes32
  storeCoinId : Bytes32
  didCoinId : Bytes32
  committedRoot : Bytes32
  pushedAtHeight : Nat
  deriving DecidableEq, Repr

def MintedDidRecord.ofMinted [DidEncoding] (minted : MintedDid) : MintedDidRecord where
  did := minted.did
  launcherId := minted.launcherId
  coinId := minted.coinId
  confirmedHeight := minted.confirmedHeight

inductive MintStage where
  | didPushed (pending : PendingMintRecord)
  | didConfirmedStoreNotLaunched (did : MintedDidRecord)
  | storePushed (did : MintedDidRecord) (pendingStore : PendingStoreLaunchRecord)
  deriving DecidableEq, Repr

def MintStage.mintedDids : MintStage → List MintedDidRecord
  | .didPushed _ => []
  | .didConfirmedStoreNotLaunched did => [did]
  | .storePushed did _ => [did]

structure ProfileMintInProgress where
  ix : ProfileIx
  stage : MintStage
  seedRoot : Option Bytes32
  storeFee : Nat
  deriving DecidableEq, Repr

def ProfileMintInProgress.new (ix : ProfileIx) (stage : MintStage) (storeFee : Nat) :
    ProfileMintInProgress where
  ix := ix
  stage := stage
  seedRoot := none
  storeFee := storeFee

def ProfileMintInProgress.withSeedRoot (ix : ProfileIx) (stage : MintStage) (seedRoot : Bytes32)
    (storeFee : Nat) : ProfileMintInProgress where
  ix := ix
  stage := stage
  seedRoot := some seedRoot
  storeFee := storeFee

def ProfileMintInProgress.setStage (mint : ProfileMintInProgress) (stage : MintStage) :
    ProfileMintInProgress :=
  { mint with stage := stage }

structure ProfileAnchor where
  did : String
  launcherId : Bytes32
  didCoinId : Bytes32
  didConfirmedHeight : Nat
  storeLauncherId : Bytes32
  storeConfirmedHeight : Nat
  storeLaunchedFrom : Option Bytes32
  storeCoinId : Option Bytes32
  deriving DecidableEq, Repr

def ProfileAnchor.fromConfirmed [DidEncoding] (did : MintedDid) (store : ConfirmedStore) :
    Except AccountError ProfileAnchor :=
  if store.didCoinId ≠ did.coinId then
    .error (.mismatchedMintHalves did.coinId store.didCoinId)
  else
    .ok {
      did := did.did
      launcherId := did.launcherId
      didCoinId := did.coinId
      didConfirmedHeight := did.confirmedHeight
      storeLauncherId := store.launcherId
      storeConfirmedHeight := store.confirmedHeight
      storeLaunchedFrom := some store.didCoinId
      storeCoinId := some store.coinId }

def ProfileAnchor.pairingHolds (anchor : ProfileAnchor) : Bool :=
  match anchor.storeLaunchedFrom with
  | none => true
  | some launchedFrom => launchedFrom = anchor.didCoinId

inductive ProfileVisibility where
  | shown
  | hiddenFromLists
  deriving DecidableEq, Repr

structure ProfileEnd where
  atHeight : Nat
  deriving DecidableEq, Repr

def ProfileEnd.at (atHeight : Nat) : Except AccountError ProfileEnd :=
  if atHeight = 0 then .error .profileEndHeightZero else .ok { atHeight := atHeight }

structure ProfileEntry where
  ix : ProfileIx
  anchor : ProfileAnchor
  label : Option String
  visibility : ProfileVisibility
  ended : Option ProfileEnd
  deriving DecidableEq, Repr

namespace ProfileEntry

def new (ix : ProfileIx) (anchor : ProfileAnchor) (label : Option String) : ProfileEntry where
  ix := ix
  anchor := anchor
  label := label
  visibility := .shown
  ended := none

def isShown (entry : ProfileEntry) : Bool := entry.visibility = .shown

def isLive (entry : ProfileEntry) : Bool := entry.ended.isNone

def setEnd (entry : ProfileEntry) (ended : ProfileEnd) : ProfileEntry :=
  { entry with ended := some ended }

def setLabel (entry : ProfileEntry) (label : Option String) : ProfileEntry :=
  { entry with label := label }

def setVisibility (entry : ProfileEntry) (visibility : ProfileVisibility) : ProfileEntry :=
  { entry with visibility := visibility }

variable {entry : ProfileEntry}

@[simp] theorem ix_setEnd {e : ProfileEnd} : (entry.setEnd e).ix = entry.ix := rfl

@[simp] theorem anchor_setEnd {e : ProfileEnd} : (entry.setEnd e).anchor = entry.anchor := rfl

@[simp] theorem isLive_setEnd {e : ProfileEnd} : (entry.setEnd e).isLive = false := rfl

@[simp] theorem ended_setEnd {e : ProfileEnd} : (entry.setEnd e).ended = some e := rfl

@[simp] theorem ix_setLabel {l : Option String} : (entry.setLabel l).ix = entry.ix := rfl

@[simp] theorem anchor_setLabel {l : Option String} : (entry.setLabel l).anchor = entry.anchor :=
  rfl

@[simp] theorem isLive_setLabel {l : Option String} : (entry.setLabel l).isLive = entry.isLive :=
  rfl

@[simp] theorem isShown_setLabel {l : Option String} :
    (entry.setLabel l).isShown = entry.isShown := rfl

@[simp] theorem ended_setLabel {l : Option String} : (entry.setLabel l).ended = entry.ended := rfl

@[simp] theorem ix_setVisibility {v : ProfileVisibility} :
    (entry.setVisibility v).ix = entry.ix := rfl

@[simp] theorem anchor_setVisibility {v : ProfileVisibility} :
    (entry.setVisibility v).anchor = entry.anchor := rfl

@[simp] theorem isLive_setVisibility {v : ProfileVisibility} :
    (entry.setVisibility v).isLive = entry.isLive := rfl

@[simp] theorem ended_setVisibility {v : ProfileVisibility} :
    (entry.setVisibility v).ended = entry.ended := rfl

@[simp] theorem isShown_setVisibility {v : ProfileVisibility} :
    (entry.setVisibility v).isShown = decide (v = .shown) := rfl

end ProfileEntry

structure ActiveSwitch where
  fromIx : Option ProfileIx
  toIx : ProfileIx
  deriving DecidableEq, Repr

inductive ProfileEndOutcome where
  | recorded
  | activeMoved (switch : ActiveSwitch)
  | noLiveProfileRemains
  | alreadyEnded
  deriving DecidableEq, Repr

end DigAccount
