import DigAccount.Mint.Gates
import DigAccount.Mint.RewardDistributor
import DigAccount.Wallet.CatTransfer

namespace DigAccount

open Validator TransferDrivers CatDrivers

structure OwnedCat (π : Type) extends Cat π where
  p2PuzzleHash : Bytes32
  deriving DecidableEq, Repr

structure DistributorConstants where
  reserveAssetId : Bytes32
  withdrawalShareBps : Nat
  deriving DecidableEq, Repr

structure RewardDistributor (action cat info : Type) where
  coin : Coin
  reserve : Coin
  constants : DistributorConstants
  info : info
  pendingActions : List action
  pendingOtherCats : List cat

structure RewardSlot where
  coin : Coin
  epochStart : Nat
  rewards : Nat
  deriving DecidableEq, Repr

structure CommitmentValue where
  epochStart : Nat
  clawbackPh : Bytes32
  rewards : Nat
  deriving DecidableEq, Repr

structure CommitmentSlot where
  coin : Coin
  value : CommitmentValue
  deriving DecidableEq, Repr

structure ChainObservation where
  peakTimestamp : Nat
  deriving DecidableEq, Repr

inductive RewardsError where
  | notTheClawbackAuthority
  | driverShareNotRepresentable (rewardsBaseUnits withdrawalShareBps : Nat)
  | driverShareDisagrees
  | commitmentEpochStarted (distributorEpochStart peakTimestamp : Nat)
  | other (display : String)
  deriving DecidableEq, Repr

class ChiaBls where
  aggregateVerify : List SignedMessage → List SignedMessage → Bool

class RewardsDrivers extends CatDrivers where
  StagedAction : Type
  StagedCat : Type
  DistributorInfo : Type
  Staging : Type
  Clawback : Type
  Conditions : Type
  createCoin : Conditions → Bytes32 → Nat → Option Memos → Conditions
  commitIncentives : RewardDistributor StagedAction StagedCat DistributorInfo → RewardSlot → Nat →
    Bytes32 → Nat → Except String (Staging × Conditions)
  withdrawCommittedIncentives : RewardDistributor StagedAction StagedCat DistributorInfo →
    CommitmentSlot → RewardSlot → Bytes32 → ChainObservation →
      Except RewardsError (Staging × Clawback)
  recoveredBaseUnits : Clawback → Nat
  intoConditions : Clawback → Conditions
  p2Spend : Bytes32 → Conditions → Except String InnerSpend
  spendCoin : Coin → InnerSpend → Except String CoinSpend
  finishSpend : Staging → List CoinSpend → List (Cat CatProof × InnerSpend) →
    Except String (List CoinSpend)

open RewardsDrivers

inductive DoorError where
  | mint (error : MintError)
  | refillUnownedFundingCoin
  | refillZeroEpoch
  | refillWrongAsset
  | refillZeroRewardsBaseUnits
  | refillPendingSpendPopulated
  | clawbackUnownedCoin
  | clawbackPendingSpendPopulated
  | clawbackNotAuthority
  | clawbackRewardSlotEpochMismatch (rewardSlotEpochStart commitmentEpochStart : Nat)
  | clawbackRewardSlotInsufficientRewards (rewardSlotRewards requiredShare : Nat)
  | clawbackEpochAlreadyStarted (epochStart chainNow : Nat)
  | clawbackDriverShareNotRepresentable (rewardsBaseUnits withdrawalShareBps : Nat)
  | clawbackDriverShareDisagrees
  deriving DecidableEq, Repr

def buildFailed (what e : String) : DoorError := .mint (.build s!"{what}: {e}")

section Discharge

variable [Clvm] [DigDrivers] [ChiaBls] (wallet : WalletKey) (network : MintNetwork)
  (refusals : SignatureRefusals MintError)

def dischargeRequirement (requirement : RequiredSignature) : Except MintError SignedMessage := do
  gateRequirement wallet refusals network requirement
  signRequirement wallet refusals requirement

def dischargeRequirements (coinSpends : List CoinSpend) :
    Except MintError (List SignedMessage) := do
  let required ← (requiredSignatures coinSpends network.aggSigMe).mapError
    fun e => MintError.build s!"required signatures: {e}"
  let signed ← required.mapM (dischargeRequirement wallet network refusals)
  refuseWhen (¬ ChiaBls.aggregateVerify signed signed) (MintError.build
    "the aggregated signature does not verify against the requirements it was built from")
  return signed

end Discharge

def refillRefusals : SignatureRefusals MintError where
  notBls := .refused "non-BLS signature requirement in a reward-distributor refill"
  strangerKey := .refused "a signature under a key that is not this profile's wallet key"
  unbound := .refused
    "a signature that is not AGG_SIG_ME (a refill never signs an unbound message)"
  unsignable := .refused "non-BLS signature requirement in a reward-distributor refill"

def clawbackRefusals : SignatureRefusals MintError where
  notBls := .refused "non-BLS signature requirement in a reward-distributor clawback"
  strangerKey := .refused "a signature under a key that is not this profile's wallet key"
  unbound := .refused
    "a signature that is not AGG_SIG_ME (a clawback never signs an unbound message)"
  unsignable := .refused "non-BLS signature requirement in a reward-distributor clawback"

def mapRewardsError : RewardsError → DoorError
  | .notTheClawbackAuthority => .clawbackNotAuthority
  | .driverShareNotRepresentable rewardsBaseUnits withdrawalShareBps =>
      .clawbackDriverShareNotRepresentable rewardsBaseUnits withdrawalShareBps
  | .driverShareDisagrees => .clawbackDriverShareDisagrees
  | .commitmentEpochStarted distributorEpochStart peakTimestamp =>
      .clawbackEpochAlreadyStarted distributorEpochStart peakTimestamp
  | .other display => .mint (.build s!"withdraw committed incentives: {display}")

section Requests

variable [CoinHash] [RewardsDrivers]

abbrev LiveDistributor := RewardDistributor StagedAction StagedCat DistributorInfo

structure RewardDistributorRefillRequest where
  distributor : LiveDistributor
  rewardSlot : RewardSlot
  distributorEpochStart : Nat
  fundingCat : OwnedCat CatProof
  rewardsBaseUnits : Nat

structure RewardDistributorClawbackRequest where
  distributor : LiveDistributor
  commitmentSlot : CommitmentSlot
  rewardSlot : RewardSlot
  clawbackCoin : Coin
  observed : ChainObservation

structure SignedRewardDistributorRefill where
  bundle : SpendBundle
  fundingCatCoinId : Bytes32
  distributorEpochStart : Nat
  rewardsBaseUnits : Nat
  deriving DecidableEq, Repr

structure SignedRewardDistributorClawback where
  bundle : SpendBundle
  commitmentSlotCoinId : Bytes32
  recoveredBaseUnits : Nat
  deriving DecidableEq, Repr

def RewardDistributorRefillRequest.permittedRoots (request : RewardDistributorRefillRequest) :
    Vector Bytes32 4 :=
  #v[coinId request.distributor.coin, coinId request.distributor.reserve,
    coinId request.rewardSlot.coin, coinId request.fundingCat.coin]

def RewardDistributorClawbackRequest.permittedRoots (request : RewardDistributorClawbackRequest) :
    Vector Bytes32 5 :=
  #v[coinId request.distributor.coin, coinId request.distributor.reserve,
    coinId request.commitmentSlot.coin, coinId request.rewardSlot.coin,
    coinId request.clawbackCoin]

def RewardDistributorClawbackRequest.requiredShare (request : RewardDistributorClawbackRequest) :
    Nat :=
  request.commitmentSlot.value.rewards * request.distributor.constants.withdrawalShareBps / 10000

end Requests

section Refill

variable [CoinHash] [RewardsDrivers] (wallet : WalletKey)
  (request : RewardDistributorRefillRequest)

def judgeRefill : Except DoorError Unit := do
  refuseWhen (request.fundingCat.p2PuzzleHash ≠ wallet.puzzleHash) .refillUnownedFundingCoin
  refuseWhen (request.distributorEpochStart = 0) .refillZeroEpoch
  refuseWhen (request.fundingCat.assetId ≠ request.distributor.constants.reserveAssetId)
    .refillWrongAsset
  refuseWhen (request.rewardsBaseUnits = 0) .refillZeroRewardsBaseUnits
  refuseWhen (request.fundingCat.coin.amount < request.rewardsBaseUnits)
    (.mint (.insufficientFunds request.rewardsBaseUnits request.fundingCat.coin.amount))
  refuseWhen (request.distributor.pendingActions.length ≠ 0 ∨
    request.distributor.pendingOtherCats.length ≠ 0) .refillPendingSpendPopulated

def stageRefill : Except DoorError (Staging × Conditions) :=
  (commitIncentives request.distributor request.rewardSlot request.distributorEpochStart
    wallet.puzzleHash request.rewardsBaseUnits).mapError (buildFailed "commit incentives")

def refillChange : Nat := request.fundingCat.coin.amount - request.rewardsBaseUnits

def refillConditions (secureConditions : Conditions) : Except DoorError Conditions :=
  if 0 < refillChange request then do
    let memos ← (hint wallet.puzzleHash).mapError (buildFailed "hint")
    return createCoin secureConditions wallet.puzzleHash (refillChange request) (some memos)
  else .ok secureConditions

def buildRefill : Except DoorError (List CoinSpend) := do
  let (staging, secureConditions) ← stageRefill wallet request
  let conditions ← refillConditions wallet request secureConditions
  let fundingSpend ← (p2Spend wallet.publicKey conditions).mapError
    (buildFailed "funding CAT spend")
  (finishSpend staging [] [(request.fundingCat.toCat, fundingSpend)]).mapError
    (buildFailed "distributor spend")

variable [Clvm] [DigDrivers] [ChiaBls]

def beginRewardDistributorRefill (network : MintNetwork) :
    Except DoorError SignedRewardDistributorRefill := do
  judgeRefill wallet request
  let coinSpends ← buildRefill wallet request
  (gateRewardDistributorRefillRoots coinSpends request.permittedRoots).mapError .mint
  let signature ←
    (dischargeRequirements wallet network refillRefusals coinSpends).mapError .mint
  return {
    bundle := ⟨coinSpends, signature⟩
    fundingCatCoinId := coinId request.fundingCat.coin
    distributorEpochStart := request.distributorEpochStart
    rewardsBaseUnits := request.rewardsBaseUnits }

end Refill

section Clawback

variable [CoinHash] [RewardsDrivers] (wallet : WalletKey)
  (request : RewardDistributorClawbackRequest)

def judgeClawback : Except DoorError Unit := do
  refuseWhen (request.clawbackCoin.puzzleHash ≠ wallet.puzzleHash) .clawbackUnownedCoin
  refuseWhen (request.distributor.pendingActions.length ≠ 0 ∨
    request.distributor.pendingOtherCats.length ≠ 0) .clawbackPendingSpendPopulated
  refuseWhen (request.commitmentSlot.value.clawbackPh ≠ wallet.puzzleHash) .clawbackNotAuthority
  refuseWhen (request.rewardSlot.epochStart ≠ request.commitmentSlot.value.epochStart)
    (.clawbackRewardSlotEpochMismatch request.rewardSlot.epochStart
      request.commitmentSlot.value.epochStart)
  refuseWhen (request.rewardSlot.rewards < request.requiredShare)
    (.clawbackRewardSlotInsufficientRewards request.rewardSlot.rewards request.requiredShare)

def buildClawback : Except DoorError (List CoinSpend × Nat) := do
  let (staging, clawback) ← (withdrawCommittedIncentives request.distributor
    request.commitmentSlot request.rewardSlot wallet.puzzleHash request.observed).mapError
      mapRewardsError
  let conditions :=
    createCoin (intoConditions clawback) wallet.puzzleHash request.clawbackCoin.amount none
  let inner ← (p2Spend wallet.publicKey conditions).mapError
    (buildFailed "clawback authorizing spend")
  let spend ← (spendCoin request.clawbackCoin inner).mapError
    (buildFailed "clawback authorizing spend")
  let coinSpends ← (finishSpend staging [spend] []).mapError (buildFailed "distributor spend")
  return (coinSpends, recoveredBaseUnits clawback)

variable [Clvm] [DigDrivers] [ChiaBls]

def beginRewardDistributorClawback (network : MintNetwork) :
    Except DoorError SignedRewardDistributorClawback := do
  judgeClawback wallet request
  let (coinSpends, recoveredBaseUnits) ← buildClawback wallet request
  (gateRewardDistributorClawbackRoots coinSpends request.permittedRoots).mapError .mint
  let signature ←
    (dischargeRequirements wallet network clawbackRefusals coinSpends).mapError .mint
  return {
    bundle := ⟨coinSpends, signature⟩
    commitmentSlotCoinId := coinId request.commitmentSlot.coin
    recoveredBaseUnits := recoveredBaseUnits }

end Clawback

def submitSigned (bundle : SpendBundle) : ChainReads MintError Nat := do
  let pushedAtHeight ← peakHeight .chainUnreachable
  pushMint bundle
  pure pushedAtHeight

def SignedRewardDistributorRefill.submit (refill : SignedRewardDistributorRefill) :
    ChainReads MintError Nat :=
  submitSigned refill.bundle

def SignedRewardDistributorClawback.submit (clawback : SignedRewardDistributorClawback) :
    ChainReads MintError Nat :=
  submitSigned clawback.bundle

end DigAccount
