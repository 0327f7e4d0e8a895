import DigAccount.Mint.Launch
import DigAccount.Mint.RewardDoors

namespace DigAccount

open Validator TransferDrivers RewardsDrivers

structure CoinProof where
  parentCoinInfo : Bytes32
  innerPuzzleHash : Bytes32
  amount : Nat
  deriving DecidableEq, Repr

structure SingleCatSpend (innerSpend : Type) where
  prevCoinId : Bytes32
  nextCoinProof : CoinProof
  prevSubtotal : Int
  extraDelta : Int
  p2Spend : innerSpend
  revoke : Bool

structure LaunchedDistributor where
  securityPublicKey : Bytes32
  launcherId : Bytes32
  deriving DecidableEq, Repr

class LaunchDrivers [RewardsDrivers] where
  ManagerInnerPuzzle : Type
  ManagerLaunch : Type
  DistributorTerms : Type
  ConsensusConstants : Type
  InnerPuzzle : Type
  Offer : Type
  noConditions : Conditions
  reserveFee : Conditions → Nat → Conditions
  launchManagerSingleton : Bytes32 → ManagerInnerPuzzle →
    Except String (ManagerLaunch × List CoinSpend)
  parentConditions : ManagerLaunch → Conditions
  managerLauncherId : ManagerLaunch → Bytes32
  digDistributorConstants : ManagerLaunch → Nat → Bytes32 → Except String DistributorTerms
  reserveAssetId : DistributorTerms → Bytes32
  quoteConditions : Conditions → Except String InnerPuzzle
  delegatedInnerSpend : Bytes32 → InnerPuzzle → Except String CatDrivers.InnerSpend
  catSpend : OwnedCat CatDrivers.CatProof → SingleCatSpend CatDrivers.InnerSpend →
    Except String CoinSpend
  offerFromSpendBundle : SpendBundle → Except String Offer
  launchDigDistributor : Offer → Nat → DistributorTerms → ConsensusConstants → LaunchComment →
    Nat → Except String (LaunchedDistributor × List CoinSpend)

open LaunchDrivers

def stageFailed (what e : String) : MintError := .build s!"{what}: {e}"

def requiredXch [DigRewards] (fee : Nat) : Option Nat :=
  (checkedAdd u64Max offerXchAmount managerSingletonAmountMojos).bind fun offered =>
    checkedAdd u64Max offered fee

section Request

variable [RewardsDrivers] [LaunchDrivers]

structure RewardDistributorMintRequest where
  funding : Coin
  rewardCat : OwnedCat CatDrivers.CatProof
  managerInnerPuzzle : ManagerInnerPuzzle
  distributorEpochSeconds : Nat
  firstEpochStart : Nat
  generation : LaunchComment
  fee : Nat
  nowUnixSeconds : Nat

structure LaunchParts where
  bundle : SpendBundle
  distributorLauncherId : Bytes32
  managerLauncherId : Bytes32
  fundingCoinId : Bytes32
  rewardCatCoinId : Bytes32
  generation : LaunchComment
  deriving DecidableEq, Repr

end Request

section Builder

variable [CoinHash] [DigRewards] [RewardsDrivers] [LaunchDrivers] (wallet : WalletKey)
  (request : RewardDistributorMintRequest)

def judgeLaunchRequest : Except MintError Unit := do
  refuseWhen (request.funding.puzzleHash ≠ wallet.puzzleHash) (.refused
    ("the funding coin is not at this wallet's puzzle hash; a distributor is minted only from " ++
      "coins this account controls"))
  refuseWhen (request.rewardCat.p2PuzzleHash ≠ wallet.puzzleHash) (.refused
    ("the reward CAT is not at this wallet's puzzle hash; this account cannot authorize a " ++
      "stranger's CAT into a reserve"))
  refuseWhen (request.distributorEpochSeconds = 0) (.refused
    ("the distributor's epoch length is zero; an epoch that can never advance is a distributor " ++
      "no reward can ever be paid out of, and building one would hang the signing seam rather " ++
      "than fail it"))

def launchChange : Except MintError Nat :=
  match requiredXch request.fee with
  | none => .error (.insufficientFunds u64Max request.funding.amount)
  | some required =>
      if request.funding.amount < required then
        .error (.insufficientFunds required request.funding.amount)
      else .ok (request.funding.amount - required)

def withChange (change : Nat) (conditions : Conditions) : Except MintError Conditions :=
  if 0 < change then do
    let memos ← (hint wallet.puzzleHash).mapError (stageFailed "hint")
    return createCoin conditions wallet.puzzleHash change (some memos)
  else .ok conditions

def fundingConditions (manager : ManagerLaunch) (change : Nat) : Except MintError Conditions := do
  let offered := createCoin (parentConditions manager) DigRewards.settlementPaymentHash
    offerXchAmount none
  let changed ← withChange wallet change offered
  return if 0 < request.fee then reserveFee changed request.fee else changed

def spendFunding (conditions : Conditions) : Except MintError CoinSpend := do
  let inner ← (p2Spend wallet.publicKey conditions).mapError (stageFailed "funding spend")
  (spendCoin request.funding inner).mapError (stageFailed "funding spend")

def spendRewardCatIntoSettlement (rewardCat : OwnedCat CatDrivers.CatProof) :
    Except MintError CoinSpend := do
  let conditions :=
    createCoin noConditions DigRewards.settlementPaymentHash rewardCat.coin.amount none
  let innerPuzzle ← (quoteConditions conditions).mapError (stageFailed "CAT settlement puzzle")
  let inner ← (delegatedInnerSpend wallet.publicKey innerPuzzle).mapError
    (stageFailed "CAT inner spend")
  (catSpend rewardCat {
    prevCoinId := coinId rewardCat.coin
    nextCoinProof := ⟨rewardCat.coin.parentCoinInfo, wallet.puzzleHash, rewardCat.coin.amount⟩
    prevSubtotal := 0
    extraDelta := 0
    p2Spend := inner
    revoke := false }).mapError (stageFailed "CAT spend")

def isOffered (spend : CoinSpend) : Bool :=
  coinId spend.coin = coinId request.funding ∨ coinId spend.coin = coinId request.rewardCat.coin

def splitOffer (staged : List CoinSpend) : Except MintError (List CoinSpend × List CoinSpend) :=
  let (offered, rest) := staged.partition (isOffered request)
  if offered.length ≠ 2 then
    .error (.build
      "the launch offer needs exactly the funding coin's spend and the reward CAT's spend")
  else .ok (offered, rest)

def stageOffer : Except MintError (ManagerLaunch × DistributorTerms × List CoinSpend) := do
  let change ← launchChange request
  let (manager, staged) ←
    (launchManagerSingleton (coinId request.funding) request.managerInnerPuzzle).mapError
      (stageFailed "manager singleton launch")
  let conditions ← fundingConditions wallet request manager change
  let fundingSpend ← spendFunding wallet request conditions
  let terms ← (digDistributorConstants manager request.distributorEpochSeconds
    wallet.puzzleHash).mapError (stageFailed "distributor constants")
  refuseWhen (request.rewardCat.assetId ≠ reserveAssetId terms) (.refused
    ("the reward CAT is not $DIG; a DIG reward distributor's reserve is the $DIG asset, and " ++
      "locking any other CAT into one would strand it there"))
  let catSpend ← spendRewardCatIntoSettlement wallet request.rewardCat
  return (manager, terms, staged ++ [fundingSpend, catSpend])

def stageLaunch (constants : ConsensusConstants) :
    Except MintError (Bytes32 × LaunchedDistributor × List CoinSpend) := do
  let (manager, terms, staged) ← stageOffer wallet request
  let (offered, rest) ← splitOffer request staged
  let offer ← (offerFromSpendBundle ⟨offered, []⟩).mapError (stageFailed "launch offer")
  let (launched, spends) ← (launchDigDistributor offer request.firstEpochStart terms constants
    request.generation request.nowUnixSeconds).mapError (stageFailed "distributor launch")
  return (managerLauncherId manager, launched, rest ++ spends)

def signLaunchRequirement (securityPublicKey : Bytes32) :
    RequiredSignature → Except MintError SignedMessage
  | .secp => .error (.refused "non-BLS signature requirement in a reward-distributor launch")
  | .bls publicKey message _ =>
      if publicKey = wallet.publicKey then .ok ⟨wallet.publicKey, message⟩
      else if publicKey = securityPublicKey then .ok ⟨securityPublicKey, message⟩
      else .error (.refused "a signature requirement under a key this mint cannot produce")

def verifyAggregateDischarges [ChiaBls] (signature signed : List SignedMessage)
    (securityPublicKey : Bytes32) : Except MintError Unit := do
  refuseWhen (¬ signed.any fun message => message.publicKey = securityPublicKey) (.build
    ("the launch's security coin requirement is absent from the drained spends; this mint does " ++
      "not aggregate `LaunchedDistributor::signature`, so its security coin would be unsigned"))
  refuseWhen (¬ ChiaBls.aggregateVerify signature signed) (.build
    "the aggregated signature does not verify against the requirements it was built from")

variable [Clvm] [DigDrivers] [SpendContext] [ChiaBls]

def buildAndSignRewardDistributorLaunch (network : MintNetwork)
    (constants : ConsensusConstants) : Except MintError LaunchParts := do
  judgeLaunchRequest wallet request
  let (managerId, launched, coinSpends) ← stageLaunch wallet request constants
  let required ← (requiredSignatures coinSpends network.aggSigMe).mapError
    (stageFailed "required signatures")
  gateRewardDistributorLaunch wallet network launched.securityPublicKey coinSpends required
    #v[coinId request.funding, coinId request.rewardCat.coin]
  let signed ← required.mapM (signLaunchRequirement wallet launched.securityPublicKey)
  verifyAggregateDischarges signed signed launched.securityPublicKey
  return {
    bundle := ⟨coinSpends, signed⟩
    distributorLauncherId := launched.launcherId
    managerLauncherId := managerId
    fundingCoinId := coinId request.funding
    rewardCatCoinId := coinId request.rewardCat.coin
    generation := request.generation }

def beginRewardDistributorMint (network : MintNetwork) (constants : ConsensusConstants) :
    Except MintError LaunchParts :=
  buildAndSignRewardDistributorLaunch wallet request network constants

end Builder

end DigAccount
