import DigAccount.Edit.Store
import DigAccount.Mint.RewardDistributor
import DigAccount.Wallet.TransferPlan

namespace DigAccount

open Validator TransferDrivers

def singletonAmount : Nat := 1

structure MintOptions where
  fee : Nat
  deriving DecidableEq, Repr

def MintOptions.requiredCoinAmount (options : MintOptions) : Nat :=
  saturatingAdd u64Max singletonAmount options.fee

def MintOptions.checkFeeCeiling (options : MintOptions) : Except MintError Unit :=
  refuseWhen (maxMintFeeMojos < options.fee) (.feeAboveCeiling options.fee maxMintFeeMojos)

class MintDrivers where
  Launcher : Type
  ParentConditions : Type
  createSimpleDid : List CoinSpend → Coin → Bytes32 → Except String (List CoinSpend × Option Did)
  intermediateCoin : Bytes32 → Nat → Nat → Coin
  createLauncher : List CoinSpend → Bytes32 → Nat → Nat → Except String (List CoinSpend × Launcher)
  mintDatastoreLaunch : List CoinSpend → Launcher → DigDataStoreMetadata → Bytes32 →
    List Bytes32 → Except String (List CoinSpend × Datastore × ParentConditions)
  spendDidWithConditions : List CoinSpend → Did → Bytes32 → ParentConditions →
    Except String (List CoinSpend)

structure ProfileMinter where
  walletAt : ProfileIx → WalletKey

namespace ProfileMinter

def ensureLive : HostReads MintError Unit :=
  Reads.bind (Reads.query HostCall.isLive) fun live =>
    Fallible.ofExcept (if live then .ok () else .error .locked)

def liveWalletKey (minter : ProfileMinter) (ix : ProfileIx) : HostReads MintError WalletKey := do
  ensureLive
  pure (minter.walletAt ix)

end ProfileMinter

section Selection

variable [CoinHash] (options : MintOptions) (reserved : List Bytes32)

structure FundingChoice where
  best : Option Coin
  available : Nat
  ownsACoveringCoin : Bool
  deriving DecidableEq, Repr

def FundingChoice.consider (choice : FundingChoice) (coin : Coin) : FundingChoice :=
  let choice := { choice with available := max choice.available coin.amount }
  if coin.amount < options.requiredCoinAmount then choice
  else
    let choice := { choice with ownsACoveringCoin := true }
    if coinId coin ∈ reserved then choice
    else if choice.best.all fun current => coin.amount < current.amount then
      { choice with best := some coin }
    else choice

def spendableCoins (puzzleHash : Bytes32) (records : List CoinRecord) : List Coin :=
  (records.filter fun record => record.coin.puzzleHash = puzzleHash ∧
    record.confirmedHeight.isSome ∧ ¬ record.isSpent).map CoinRecord.coin

def chooseFundingCoin (puzzleHash : Bytes32) (records : List CoinRecord) :
    Except MintError Coin :=
  let choice :=
    (spendableCoins puzzleHash records).foldl (FundingChoice.consider options reserved)
      ⟨none, 0, false⟩
  match choice.best with
  | some coin => .ok coin
  | none =>
      if choice.ownsACoveringCoin then
        .error (.coinsReserved options.requiredCoinAmount choice.available)
      else .error (.insufficientFunds options.requiredCoinAmount choice.available)

def selectFundingCoin (puzzleHash : Bytes32) : HostReads MintError Coin := do
  let records ← .mapError MintError.chainUnreachable
    (Reads.query (HostCall.coinRecordsByPuzzleHash puzzleHash false))
  let chosen ← .ofExcept (chooseFundingCoin options reserved puzzleHash records)
  onChain (.mapError (fun e => MintError.chainUnreachable e.display)
    (confirmSpendableByName chosen))
  pure chosen

def selectFundingWithId (puzzleHash : Bytes32) : HostReads MintError (Coin × List Bytes32) := do
  let coin ← selectFundingCoin options reserved puzzleHash
  pure (coin, [coinId coin])

end Selection

def ReservationError.unusable (e : ReservationError) : MintError := .reservationUnusable e.display

def splitChangeAndFee (sourceAmount requestedFee : Nat) : Nat × Nat :=
  let change := sourceAmount - singletonAmount - requestedFee
  if change = singletonAmount then (0, saturatingAdd u64Max requestedFee change)
  else (change, requestedFee)

def changeAndFeeConditions {μ : Type} (puzzleHash : Bytes32) (memos : μ) (change fee : Nat) :
    List (Condition μ) :=
  (if 0 < change then [.createCoin puzzleHash change (some memos)] else []) ++
    (if 0 < fee then [.reserveFee fee] else [])

section Build

variable [CoinHash] [TransferDrivers] [MintDrivers] (wallet : WalletKey)

def buildMintSpends (source : Coin) (options : MintOptions) (pushedAtHeight : Nat) :
    Except MintError (List CoinSpend × PendingMint) := do
  let memos ← (hint wallet.puzzleHash).mapError fun e => .build s!"hint: {e}"
  let (change, fee) := splitChangeAndFee source.amount options.fee
  let conditions := .createCoin wallet.puzzleHash singletonAmount (some memos) ::
    changeAndFeeConditions wallet.puzzleHash memos change fee
  let split ← (standardSpend wallet.publicKey source conditions).mapError
    fun e => .build s!"funding split: {e}"
  let fundingCoin : Coin := ⟨coinId source, wallet.puzzleHash, singletonAmount⟩
  let (coinSpends, child) ←
    (MintDrivers.createSimpleDid [split] fundingCoin wallet.publicKey).mapError
      fun e => .build s!"DID create: {e}"
  match child with
  | none => .error (.build "DID create returned no child DID")
  | some did =>
      return (coinSpends, ⟨did.launcherId, coinId did.coin, coinId source, pushedAtHeight⟩)

end Build

def bundleRoots [CoinHash] (coinSpends : List CoinSpend) : List CoinSpend :=
  coinSpends.filter fun spend =>
    spend.coin.parentCoinInfo ∉ coinSpends.map fun other => coinId other.coin

section Sign

variable [CoinHash] (wallet : WalletKey) (network : MintNetwork)

def didMintRefusals : SignatureRefusals MintError where
  notBls := .refused "a secp signature requirement, which a DID mint never produces"
  strangerKey := .refused "a signature under a key that is not this profile's wallet key"
  unbound := .refused
    "a signature that is not AGG_SIG_ME (a mint never signs an unbound message)"
  unsignable := .refused "non-BLS signature requirement in a DID mint"

def gateRoot (coinSpends : List CoinSpend) : Except MintError Unit :=
  match bundleRoots coinSpends with
  | [only] =>
      refuseWhen (only.coin.puzzleHash ≠ wallet.puzzleHash)
        (.refused "the bundle spends a pre-existing coin that is not this wallet's")
  | roots =>
      .error (.refused
        s!"the bundle spends {roots.length} pre-existing coins; a mint spends exactly one")

def gateDidMint (coinSpends : List CoinSpend) (required : List RequiredSignature) :
    Except MintError Unit := do
  each (gateRequirement wallet didMintRefusals network) required
  gateRoot wallet coinSpends

variable [Clvm] [DigDrivers]

def signMintSpends (coinSpends : List CoinSpend) : Except MintError (List SignedMessage) := do
  let required ← (requiredSignatures coinSpends network.aggSigMe).mapError
    fun e => MintError.build s!"required signatures: {e}"
  gateDidMint wallet network coinSpends required
  required.mapM (signRequirement wallet didMintRefusals)

end Sign

namespace ProfileMinter

variable [CoinHash] [TransferDrivers] [MintDrivers] [Clvm] [DigDrivers]

def signDidMint (wallet : WalletKey) (source : Coin) (network : MintNetwork)
    (options : MintOptions) : HostReads MintError (SpendBundle × PendingMint) := do
  let pushedAtHeight ← onChain (peakHeight .chainUnreachable)
  let (coinSpends, pending) ← .ofExcept (buildMintSpends wallet source options pushedAtHeight)
  ensureLive
  let signature ← .ofExcept (signMintSpends wallet network coinSpends)
  pure (⟨coinSpends, signature⟩, pending)

def prepareDidMint (minter : ProfileMinter) (ix : ProfileIx) (network : MintNetwork)
    (options : MintOptions) (reservations : CoinReservations) :
    HostReads MintError ((SpendBundle × PendingMint) × ReservationId) := do
  let wallet ← minter.liveWalletKey ix
  .ofExcept options.checkFeeCeiling
  let (source, held) ← reservations.selectAndReserve maxReservationAttempts
    (selectFundingWithId options · wallet.puzzleHash) ReservationError.unusable
  let signed ← Fallible.outcome (signDidMint wallet source network options)
  let signed ← CoinReservations.orRelease held signed
  pure (signed, held)

end ProfileMinter

end DigAccount
