import DigAccount.Edit.Profile
import DigAccount.Mint.Profile
import DigAccount.Mint.StoreLaunch
import DigAccount.Registry.Journal

namespace DigAccount

open Validator

structure ProfileSeed [ProfileSchema] where
  content : Profile

def ProfileSeed.root [ProfileSchema] (seed : ProfileSeed) : Except MintError Bytes32 := do
  let body ← (fromProfile seed.content).mapError fun e => MintError.build s!"profile seed body: {e}"
  return ProfileSchema.root body

def PendingMintRecord.ofPending (pending : PendingMint) : PendingMintRecord where
  launcherId := pending.launcherId
  didCoinId := pending.didCoinId
  sourceCoinId := pending.sourceCoinId
  pushedAtHeight := pending.pushedAtHeight

def PendingStoreLaunchRecord.ofPending (pending : PendingStoreLaunch) :
    PendingStoreLaunchRecord where
  launcherId := pending.launcherId
  storeCoinId := pending.storeCoinId
  didCoinId := pending.didCoinId
  committedRoot := pending.committedRoot
  pushedAtHeight := pending.pushedAtHeight

def MintError.definitiveNo : MintError → Bool
  | .rejected _ => true
  | _ => false

namespace ProfileRegistry

def releaseIndexOnADefinitiveNo [DidEncoding] (registry : ProfileRegistry) (ix : ProfileIx)
    (e : MintError) : Mutation Unit :=
  if e.definitiveNo then registry.abandonMint ix else .returned (.ok ()) registry

def rewindToAnUnlaunchedStoreOnADefinitiveNo [DidEncoding] (registry : ProfileRegistry)
    (ix : ProfileIx) (did : MintedDid) (e : MintError) : Mutation Unit :=
  if e.definitiveNo then
    registry.advanceMint ix (.didConfirmedStoreNotLaunched (.ofMinted did))
  else .returned (.ok ()) registry

end ProfileRegistry

inductive MintHalf where
  | did
  | store
  deriving DecidableEq, Repr

structure Pushed where
  half : MintHalf
  ix : ProfileIx
  bundle : SpendBundle
  journalled : Option MintStage
  answer : Except MintError Unit

structure CeremonyOutcome [DidEncoding] where
  result : Except MintError ProfileMintStatus
  registry : ProfileRegistry
  pushed : Option Pushed

abbrev MintCeremony [DidEncoding] := HostReads String CeremonyOutcome

section Broadcast

variable [DidEncoding] (registry : ProfileRegistry) (ix : ProfileIx)

def MintCeremony.refused (e : MintError) : MintCeremony := pure ⟨.error e, registry, none⟩

def MintCeremony.afterRefusal (held : ReservationId) (pushed : Pushed) (e : MintError) :
    Mutation Unit → MintCeremony
  | .panicked reason => .fail reason
  | .returned _ registry =>
      if e.definitiveNo then do
        let _ ← Fallible.outcome (CoinReservations.release held)
        pure ⟨.error e, registry, some pushed⟩
      else pure ⟨.error e, registry, some pushed⟩

def MintCeremony.broadcast (half : MintHalf) (bundle : SpendBundle) (held : ReservationId)
    (undo : MintError → Mutation Unit) (status : ProfileMintStatus) : MintCeremony := do
  let answer ← Fallible.outcome (onChain (pushMint bundle))
  let pushed : Pushed :=
    ⟨half, ix, bundle, (registry.journalAt ix).map ProfileMintInProgress.stage, answer⟩
  match answer with
  | .ok () => pure ⟨.ok status, registry, some pushed⟩
  | .error e => MintCeremony.afterRefusal held pushed e (undo e)

def MintCeremony.journalThenBroadcast (journalled : Mutation Unit) (half : MintHalf)
    (bundle : SpendBundle) (held : ReservationId)
    (undo : ProfileRegistry → MintError → Mutation Unit) (status : ProfileMintStatus) :
    MintCeremony :=
  match journalled with
  | .panicked reason => .fail reason
  | .returned (.error e) registry => do
      let _ ← Fallible.outcome (CoinReservations.release held)
      MintCeremony.refused registry (.journal e.display)
  | .returned (.ok ()) registry =>
      MintCeremony.broadcast registry ix half bundle held (undo registry) status

end Broadcast

section StoreHalf

variable [CoinHash] [DidEncoding]

def readMintedDidTip (did : MintedDid) : ChainReads MintError DidTip := do
  let tip ← readDidTip (fun e => .chainUnreachable s!"DID lineage: {e}") did.launcherId
  match tip with
  | none =>
      .fail (.chainUnreachable "the chain no longer resolves this DID's singleton lineage")
  | some tip => pure tip

def judgeMintedDidTip (tip : DidTip) (did : MintedDid) : Except MintError Unit :=
  refuseWhen (coinId tip.coin ≠ did.coinId) (.refused
    (s!"the chain resolves this DID's lineage to tip coin {hex32 (coinId tip.coin)}, but this " ++
      s!"mint recorded its DID coin as {hex32 did.coinId}; the store is launched only from the " ++
      "coin the mint itself named"))

def ProfileMintInProgress.resumableRoot (mint : ProfileMintInProgress) (ix : ProfileIx) :
    Except MintError Bytes32 :=
  match mint.seedRoot with
  | some seedRoot => .ok seedRoot
  | none =>
      .error (.journal
        (s!"the mint journalled at profile {ix} carries no profile seed, so it is a DID-only " ++
          "mint rather than a profile mint; its store half cannot be resumed without " ++
          "committing to bytes the user never chose"))

end StoreHalf

namespace ProfileMinter

section Store

variable [CoinHash] [DidEncoding] [TransferDrivers] [MintDrivers] [Clvm] [DigDrivers]

def signLaunch (wallet : WalletKey) (tip : DidTip) (did : MintedDid) (funding : Coin)
    (seedRoot : Bytes32) (fee : Nat) (network : MintNetwork) :
    HostReads MintError StoreLaunchBundle := do
  let pushedAtHeight ← onChain (peakHeight .chainUnreachable)
  ensureLive
  .ofExcept (buildAndSignStoreLaunch wallet tip.did did.coinId funding seedRoot did.did fee
    pushedAtHeight network)

def prepareStoreLaunch (minter : ProfileMinter) (registry : ProfileRegistry) (ix : ProfileIx)
    (did : MintedDid) (network : MintNetwork) (reservations : CoinReservations) :
    HostReads MintError (StoreLaunchBundle × ReservationId) := do
  let mint ← .ofExcept (registry.journalledMint ix)
  let seedRoot ← .ofExcept (mint.resumableRoot ix)
  let wallet ← minter.liveWalletKey ix
  let tip ← onChain (readMintedDidTip did)
  .ofExcept (judgeMintedDidTip tip did)
  let (funding, held) ← reservations.selectAndReserve maxReservationAttempts
    (selectFundingWithId ⟨mint.storeFee⟩ · wallet.puzzleHash) ReservationError.unusable
  let launch ← Fallible.outcome
    (signLaunch wallet tip did funding seedRoot mint.storeFee network)
  let launch ← CoinReservations.orRelease held launch
  pure (launch, held)

def launchStore (minter : ProfileMinter) (registry : ProfileRegistry) (ix : ProfileIx)
    (did : MintedDid) (network : MintNetwork) (reservations : CoinReservations) : MintCeremony := do
  let prepared ← Fallible.outcome
    (minter.prepareStoreLaunch registry ix did network reservations)
  match prepared with
  | .error e => MintCeremony.refused registry e
  | .ok (launch, held) =>
      MintCeremony.journalThenBroadcast ix
        (registry.advanceMint ix (.storePushed (.ofMinted did) (.ofPending launch.pending)))
        .store launch.bundle held
        (fun registry => registry.rewindToAnUnlaunchedStoreOnADefinitiveNo ix did)
        (.storePending did launch.pending.launcherId)

def advanceProfileMint (minter : ProfileMinter) (registry : ProfileRegistry) (ix : ProfileIx)
    (network : MintNetwork) (reservations : CoinReservations) : MintCeremony := do
  let status ← Fallible.outcome (onChain (profileMintStatus registry ix))
  match status with
  | .ok (.didConfirmedStoreNotLaunched did) =>
      minter.launchStore registry ix did network reservations
  | settled => pure ⟨settled, registry, none⟩

end Store

section Begin

variable [CoinHash] [DidEncoding] [TransferDrivers] [MintDrivers] [Clvm] [DigDrivers]
  [ProfileSchema]

def beginProfileMint (minter : ProfileMinter) (registry : ProfileRegistry) (ix : ProfileIx)
    (seed : ProfileSeed) (network : MintNetwork) (options : MintOptions)
    (reservations : CoinReservations) : MintCeremony :=
  match seed.root with
  | .error e => MintCeremony.refused registry e
  | .ok seedRoot => do
      let prepared ← Fallible.outcome (minter.prepareDidMint ix network options reservations)
      match prepared with
      | .error e => MintCeremony.refused registry e
      | .ok ((bundle, pending), held) =>
          MintCeremony.journalThenBroadcast ix
            (registry.beginSeededMint ix (.didPushed (.ofPending pending)) seedRoot options.fee)
            .did bundle held (fun registry => registry.releaseIndexOnADefinitiveNo ix)
            (.didPending pending.didCoinId)

end Begin

end ProfileMinter

end DigAccount
