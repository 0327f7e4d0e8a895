import DigAccount.Mint.DidMint

namespace DigAccount

open Validator TransferDrivers

def intermediateMintNumber : Nat := 0

def intermediateMintTotal : Nat := 1

structure StoreLaunchBundle where
  bundle : SpendBundle
  pending : PendingStoreLaunch
  deriving DecidableEq, Repr

def storeMetadata (seedRoot : Bytes32) (did : String) : DigDataStoreMetadata where
  rootHash := seedRoot
  label := some "DIG profile"
  description := some s!"The DIG profile store for {did}"
  sizeBucket := none
  programHash := none

def changeAfterLaunch (amount fee : Nat) : Except MintError Nat :=
  if launcherAmount + fee ≤ amount then .ok (amount - launcherAmount - fee)
  else .error (.insufficientFunds (saturatingAdd u64Max launcherAmount fee) amount)

def storeLaunchRefusals : SignatureRefusals MintError where
  notBls := .refused "a secp signature requirement, which a store launch never produces"
  strangerKey := .refused "a signature under a key that is not this profile's wallet key"
  unbound := .refused
    "a signature that is not AGG_SIG_ME (a launch never signs an unbound message)"
  unsignable := .refused "non-BLS signature requirement in a store launch"

section Build

variable [CoinHash] (wallet : WalletKey)

def judgeLaunchAnchor (did : Did) (didCoinId : Bytes32) : Except MintError Unit :=
  refuseWhen (coinId did.coin ≠ didCoinId) (.refused
    (s!"the DID coin to spend is {hex32 (coinId did.coin)}, but this mint recorded " ++
      s!"{hex32 didCoinId}; a launch is built only against the coin the mint itself named"))

def judgeLauncher (coinSpends : List CoinSpend) (intermediateCoin : Coin)
    (storeLauncherId : Bytes32) : Except MintError Unit := do
  refuseWhen (intermediateCoin.amount ≠ intermediateAmount) (.build
    "the intermediate coin is not the even amount that makes this launch legal")
  match coinSpends.find? fun spend => coinId spend.coin = storeLauncherId with
  | none => .error (.build "the launch spends no launcher coin")
  | some launcherSpend =>
      refuseWhen (launcherSpend.coin.parentCoinInfo ≠ coinId intermediateCoin) (.build
        "the launcher is not parented on the even-amount intermediate coin")

def gateLaunchRoots (coinSpends : List CoinSpend) (didCoinId : Bytes32) : Except MintError Unit :=
  match bundleRoots coinSpends with
  | [first, second] =>
      let walletSpend :=
        if coinId first.coin = didCoinId then some second
        else if coinId second.coin = didCoinId then some first
        else none
      match walletSpend with
      | none => .error (.refused "the bundle does not spend this profile's DID coin")
      | some walletSpend =>
          refuseWhen (walletSpend.coin.puzzleHash ≠ wallet.puzzleHash)
            (.refused "the bundle's funding coin is not this wallet's")
  | roots =>
      .error (.refused
        (s!"the bundle spends {roots.length} pre-existing coins; a store launch spends exactly " ++
          "two"))

def gateStoreLaunch (network : MintNetwork) (coinSpends : List CoinSpend)
    (required : List RequiredSignature) (didCoinId : Bytes32) : Except MintError Unit := do
  each (gateRequirement wallet storeLaunchRefusals network) required
  gateLaunchRoots wallet coinSpends didCoinId

variable [Clvm] [DigDrivers]

def signStoreLaunch (network : MintNetwork) (coinSpends : List CoinSpend) (didCoinId : Bytes32) :
    Except MintError (List SignedMessage) := do
  let required ← (requiredSignatures coinSpends network.aggSigMe).mapError
    fun e => MintError.build s!"required signatures: {e}"
  gateStoreLaunch wallet network coinSpends required didCoinId
  required.mapM (signRequirement wallet storeLaunchRefusals)

variable [TransferDrivers] [MintDrivers]

def spendFundingCoin (funding : Coin) (fee : Nat) : Except MintError CoinSpend := do
  let memos ← (hint wallet.puzzleHash).mapError fun e => .build s!"hint: {e}"
  let change ← changeAfterLaunch funding.amount fee
  (standardSpend wallet.publicKey funding
    (changeAndFeeConditions wallet.puzzleHash memos change fee)).mapError
      fun e => .build s!"funding spend: {e}"

def buildStoreLaunch (did : Did) (didCoinId : Bytes32) (funding : Coin) (seedRoot : Bytes32)
    (didString : String) (fee : Nat) : Except MintError (List CoinSpend × Datastore) := do
  let (spends, launcher) ← (MintDrivers.createLauncher [] didCoinId intermediateMintNumber
    intermediateMintTotal).mapError fun e => .build s!"intermediate launcher: {e}"
  let (spends, datastore, parentConditions) ← (MintDrivers.mintDatastoreLaunch spends launcher
    (storeMetadata seedRoot didString) wallet.puzzleHash []).mapError
      fun e => .build s!"store launch: {e}"
  let spends ← (MintDrivers.spendDidWithConditions spends did wallet.publicKey
    parentConditions).mapError fun e => .build s!"DID spend: {e}"
  let fundingSpend ← spendFundingCoin wallet funding fee
  return (spends ++ [fundingSpend], datastore)

def buildAndSignStoreLaunch (did : Did) (didCoinId : Bytes32) (funding : Coin)
    (seedRoot : Bytes32) (didString : String) (fee pushedAtHeight : Nat)
    (network : MintNetwork) : Except MintError StoreLaunchBundle := do
  judgeLaunchAnchor did didCoinId
  let (coinSpends, datastore) ←
    buildStoreLaunch wallet did didCoinId funding seedRoot didString fee
  judgeLauncher coinSpends
    (MintDrivers.intermediateCoin didCoinId intermediateMintNumber intermediateMintTotal)
    datastore.info.launcherId
  let signature ← signStoreLaunch wallet network coinSpends didCoinId
  return {
    bundle := ⟨coinSpends, signature⟩
    pending := {
      launcherId := datastore.info.launcherId
      storeCoinId := coinId datastore.coin
      didCoinId := didCoinId
      committedRoot := seedRoot
      pushedAtHeight := pushedAtHeight } }

theorem buildAndSignStoreLaunch_ok {did : Did} {didCoinId : Bytes32} {funding : Coin}
    {seedRoot : Bytes32} {didString : String} {fee pushedAtHeight : Nat} {network : MintNetwork}
    {launch : StoreLaunchBundle}
    (h : buildAndSignStoreLaunch wallet did didCoinId funding seedRoot didString fee
      pushedAtHeight network = .ok launch) :
    launch.pending.didCoinId = didCoinId := by
  simp only [buildAndSignStoreLaunch, bind_ok] at h
  obtain ⟨-, -, ⟨coinSpends, datastore⟩, -, -, -, signature, -, hlaunch⟩ := h
  cases hlaunch
  rfl

end Build

end DigAccount
