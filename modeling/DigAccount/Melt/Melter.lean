import DigAccount.Chain.Confirm
import DigAccount.Edit.Store

namespace DigAccount

open Validator

inductive MeltError where
  | chainUnreachable (reason : String)
  | noDid
  | noStore
  | refused (reason : String)
  | build (reason : String)
  | format (reason : String)
  | rejected (reason : String)
  | locked
  deriving DecidableEq, Repr

inductive MeltStatus where
  | pushed (didCoinId storeCoinId : Bytes32)
  | confirmed (atHeight : Nat)
  deriving DecidableEq, Repr

structure MeltPlan where
  coinSpends : List CoinSpend
  didCoin : Coin
  storeCoin : Coin
  deriving DecidableEq, Repr

structure DeletionPreview where
  did : String
  didLauncherId : Bytes32
  storeLauncherId : Bytes32
  didCoinId : Bytes32
  storeCoinId : Bytes32
  destroyedMojos : Nat
  deriving DecidableEq, Repr

def DidError.display : DidError → String
  | chain reason => reason
  | other reason => reason

def mapStoreReadError : EditError → MeltError
  | .noStore => .noStore
  | .chainUnreachable reason => .chainUnreachable reason
  | other => .format s!"store tip: {other.display}"

def stillAliveError (gone : MeltError) : UnconfirmedInput → MeltError
  | .contradicted _ _ (some _) => gone
  | other => .chainUnreachable other.display

def meltRefusals : SignatureRefusals MeltError where
  notBls := .refused "a deletion signs only BLS AGG_SIG_ME requirements"
  strangerKey := .refused
    "the deletion asks for a signature under a key this profile does not hold"
  unbound := .refused
    "a signature that is not AGG_SIG_ME (a deletion never signs an unbound message)"
  unsignable := .refused "non-BLS signature requirement in a profile deletion"

def readLiveDidTip (anchor : ProfileAnchor) : ChainReads MeltError DidTip := do
  let tip ← readDidTip (fun e => .chainUnreachable s!"DID lineage: {e}") anchor.launcherId
  match tip with
  | none => .fail .noDid
  | some tip => pure tip

variable [CoinHash]

def pinError (tip : DidTip) : DidError → MeltError
  | .chain reason => .chainUnreachable s!"DID lineage proof: {reason}"
  | other =>
      .refused (s!"the chain resolves this profile's DID to tip coin {hex32 (coinId tip.coin)}, " ++
        "which does not authenticate as a genuine state of any singleton " ++
        s!"({other.display})")

def judgePin (tip : DidTip) (anchor : ProfileAnchor) (authenticatedLauncher : Bytes32) :
    Except MeltError Unit :=
  refuseWhen (authenticatedLauncher ≠ anchor.launcherId) (.refused
    (s!"the chain resolves this profile's DID lineage to tip coin {hex32 (coinId tip.coin)}, " ++
      s!"which descends from launcher {hex32 authenticatedLauncher}, but this profile's anchor " ++
      s!"names launcher {hex32 anchor.launcherId}; a deletion melts only the singleton the " ++
      "anchor names"))

def pinDidTipToAnchor (tip : DidTip) (anchor : ProfileAnchor) : ChainReads MeltError Unit := do
  let launcher ← proveLineage (pinError tip) (coinId tip.coin) tip.did
  .ofExcept (judgePin tip anchor launcher)

def requireStillAlive (coin : Coin) (gone : MeltError) : ChainReads MeltError Unit :=
  .mapError (stillAliveError gone) (confirmSpendableByName coin)

def gateProfileMelt (wallet : WalletKey) (didCoinId storeCoinId : Bytes32)
    (coinSpends : List CoinSpend) (required : List RequiredSignature) (network : MintNetwork) :
    Except MeltError Unit := do
  refuseWhen (coinSpends.length ≠ 2) (.refused
    (s!"the deletion's bundle spends {coinSpends.length} coins; deleting a profile ends exactly " ++
      "its two singletons"))
  refuseWhen (¬ (coinSpends.map fun s => coinId s.coin).isPerm [didCoinId, storeCoinId]) (.refused
    ("the deletion spends a coin that is not one of the two singletons this profile's anchor " ++
      "resolved to"))
  each (gateRequirement wallet meltRefusals network) required

def judgeSpent (askedId : Bytes32) : Option CoinRecord → Except MeltError (Option Nat)
  | none =>
      .error (.chainUnreachable
        (s!"the chain has no record of coin {hex32 askedId}, which this deletion spent — its " ++
          "state is unknown, not unspent"))
  | some record =>
      if coinId record.coin ≠ askedId then
        .error (.chainUnreachable
          (s!"the chain source answered a request for coin {hex32 askedId} with a record for " ++
            s!"{hex32 (coinId record.coin)}, so this deletion's state is unknown"))
      else .ok record.spentHeight

def spentHeightOf (askedId : Bytes32) : ChainReads MeltError (Option Nat) := do
  let record ← readCoinRecord .chainUnreachable askedId
  .ofExcept (judgeSpent askedId record)

def endStatus (didCoinId storeCoinId : Bytes32) : Option Nat → Option Nat → MeltStatus
  | some didHeight, some storeHeight => .confirmed (max didHeight storeHeight)
  | _, _ => .pushed didCoinId storeCoinId

def meltStatus (didCoinId storeCoinId : Bytes32) : ChainReads MeltError MeltStatus := do
  let didSpent ← spentHeightOf didCoinId
  let storeSpent ← spentHeightOf storeCoinId
  pure (endStatus didCoinId storeCoinId didSpent storeSpent)

variable [Clvm] [DigDrivers]

def planDidHalf (anchor : ProfileAnchor) (wallet : WalletKey) :
    ChainReads MeltError (Coin × List CoinSpend) := do
  let tip ← readLiveDidTip anchor
  pinDidTipToAnchor tip anchor
  requireStillAlive tip.coin .noDid
  let didMelt ← .ofExcept ((meltDid tip.did wallet.publicKey).mapError
    fun e => .build s!"DID melt: {e}")
  pure (tip.coin, didMelt)

def planStoreHalf (anchor : ProfileAnchor) (wallet : WalletKey) :
    ChainReads MeltError (Coin × List CoinSpend) := do
  let store ← .mapError mapStoreReadError (resolveStoreTip anchor)
  .ofExcept ((gateStoreIdentity wallet anchor.storeLauncherId store).mapError
    fun e => .refused e.display)
  requireStillAlive store.coin .noStore
  let storeMelt ← .ofExcept ((meltStore store wallet.publicKey).mapError
    fun e => .build s!"store melt: {e}")
  pure (store.coin, storeMelt)

def planMelt (anchor : ProfileAnchor) (wallet : WalletKey) : ChainReads MeltError MeltPlan := do
  let didHalf ← planDidHalf anchor wallet
  let storeHalf ← planStoreHalf anchor wallet
  pure ⟨didHalf.2 ++ storeHalf.2, didHalf.1, storeHalf.1⟩

def signMelt (plan : MeltPlan) (wallet : WalletKey) (network : MintNetwork) :
    Except MeltError SpendBundle := do
  let required ← (requiredSignatures plan.coinSpends network.aggSigMe).mapError
    fun e => MeltError.build s!"required signatures: {e}"
  gateProfileMelt wallet (coinId plan.didCoin) (coinId plan.storeCoin) plan.coinSpends required
    network
  let signature ← required.mapM (signRequirement wallet meltRefusals)
  pure ⟨plan.coinSpends, signature⟩

def judgePush (plan : MeltPlan) : PushOutcome → Except MeltError MeltStatus
  | .accepted | .alreadyInMempool => .ok (.pushed (coinId plan.didCoin) (coinId plan.storeCoin))
  | .rejected reason => .error (.rejected reason)

def MeltPlan.preview (plan : MeltPlan) (anchor : ProfileAnchor) : DeletionPreview where
  did := anchor.did
  didLauncherId := anchor.launcherId
  storeLauncherId := anchor.storeLauncherId
  didCoinId := coinId plan.didCoin
  storeCoinId := coinId plan.storeCoin
  destroyedMojos := wrappingAdd u64Max plan.didCoin.amount plan.storeCoin.amount

structure ProfileMelter where
  walletAt : ProfileIx → WalletKey
  isLive : Bool

namespace ProfileMelter

variable (melter : ProfileMelter)

def liveWalletKey (ix : ProfileIx) : Except MeltError WalletKey :=
  if melter.isLive then .ok (melter.walletAt ix) else .error .locked

def meltProfile (ix : ProfileIx) (anchor : ProfileAnchor) (network : MintNetwork) :
    ChainReads MeltError MeltStatus := do
  let wallet ← .ofExcept (melter.liveWalletKey ix)
  let plan ← planMelt anchor wallet
  let bundle ← .ofExcept (signMelt plan wallet network)
  let outcome ← pushBundle .chainUnreachable bundle
  .ofExcept (judgePush plan outcome)

end ProfileMelter

end DigAccount
