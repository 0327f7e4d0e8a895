import DigAccount.Wallet.Policy

namespace DigAccount

structure DecodedOutput where
  puzzleHash : Bytes32
  amount : Nat
  assetId : Option Bytes32
  deriving DecidableEq, Repr

structure SpendEffect (ν : Type) where
  outputs : List DecodedOutput
  protocolSink : List DecodedOutput
  fee : Nat
  meltedSingletons : List Bytes32
  nftOperations : List ν

class WalletSdk where
  NftOperation : Type
  analyze : List CoinSpend → Except String (SpendEffect NftOperation)
  describe : NftOperation → Except String String
  standardPuzzleHash : Program → Option Bytes32
  encodeAddress : Bytes32 → Option String
  decodeAddress : String → Except String Bytes32
  settlementPaymentHash : Bytes32
  singletonLauncherHash : Bytes32

inductive SpendDestination where
  | address
  | protocolStructure
  deriving DecidableEq, Repr

structure SpendRecipient where
  address : String
  amountMojos : Nat
  assetId : Option String
  destination : SpendDestination
  deriving DecidableEq, Repr

inductive SpendTier where
  | autoSend
  | confirm
  | vault
  deriving DecidableEq, Repr

def SpendTier.classify (policy : CustodyPolicy) (totalMojos : Nat) : SpendTier :=
  match policy with
  | .vault _ => .vault
  | .hot hot => if totalMojos ≤ hot.autoSendLimit then .autoSend else .confirm

structure SpendSummary where
  tier : SpendTier
  recipients : List SpendRecipient
  fee : Nat
  meltedSingletons : List String
  nftOperations : List String
  deriving DecidableEq, Repr

namespace SpendSummary

def destroysSingletons (summary : SpendSummary) : Bool := !summary.meltedSingletons.isEmpty

def movesNfts (summary : SpendSummary) : Bool := !summary.nftOperations.isEmpty

def movesNonNativeAssets (summary : SpendSummary) : Bool :=
  summary.recipients.any fun recipient => recipient.assetId.isSome

def unsummable (what : String) : AccountError :=
  .policyIndeterminate
    s!"{what} overflow u64, so this spend has no native total to weigh against a limit"

def checkedNativeTotalMojos (summary : SpendSummary) : Except AccountError Nat :=
  let native := summary.recipients.filter fun recipient => recipient.assetId.isNone
  match checkedSum u64Max 0 (native.map SpendRecipient.amountMojos) with
  | none => .error (unsummable "the native recipient amounts")
  | some nativeOut =>
      match checkedAdd u64Max nativeOut summary.fee with
      | none => .error (unsummable "the native recipient amounts plus the fee")
      | some total => .ok total

end SpendSummary

variable [WalletSdk]

open WalletSdk

def p2Destinations (coinSpends : List CoinSpend) : List Bytes32 :=
  coinSpends.filterMap fun spend =>
    match standardPuzzleHash spend.puzzleReveal with
    | none => none
    | some curried => if curried = spend.coin.puzzleHash then some spend.coin.puzzleHash else none

def addressLine (output : DecodedOutput) : SpendRecipient where
  address := (encodeAddress output.puzzleHash).getD (hex32 output.puzzleHash)
  amountMojos := output.amount
  assetId := output.assetId.map hex32
  destination := .address

def protocolStructureLine (output : DecodedOutput) : SpendRecipient where
  address :=
    if output.puzzleHash = settlementPaymentHash then "the offer settlement puzzle"
    else if output.puzzleHash = WalletSdk.singletonLauncherHash then "the singleton launcher"
    else s!"an unrecognized protocol structure ({hex32 output.puzzleHash})"
  amountMojos := output.amount
  assetId := output.assetId.map hex32
  destination := .protocolStructure

def nameNft (operation : NftOperation) : Except AccountError String :=
  match describe operation with
  | .error e => .error (.spend s!"cannot name an NFT this spend acts on: {e}")
  | .ok sentence => .ok sentence

def deriveEffect (coinSpends : List CoinSpend) :
    Except AccountError (SpendEffect NftOperation) :=
  match checkedSum u64Max 0 (coinSpends.map fun spend => spend.coin.amount) with
  | none =>
      .error (.policyIndeterminate
        ("the spent coins' amounts do not sum in a u64, so this spend's value cannot be " ++
          "accounted for"))
  | some _ =>
      match analyze coinSpends with
      | .error e => .error (.spend s!"cannot derive spend summary: {e}")
      | .ok effect => .ok effect

def SpendSummary.fromEffect (effect : SpendEffect NftOperation) (coinSpends : List CoinSpend)
    (tier : SpendTier) : Except AccountError SpendSummary := do
  let returnsToSpender := p2Destinations coinSpends
  let leavesToAnAddress := effect.outputs.filter fun output =>
    output.puzzleHash ∉ returnsToSpender
  let nftOperations ← effect.nftOperations.mapM nameNft
  return {
    tier := tier
    recipients :=
      leavesToAnAddress.map addressLine ++ effect.protocolSink.map protocolStructureLine
    fee := effect.fee
    meltedSingletons := effect.meltedSingletons.map hex32
    nftOperations := nftOperations }

structure DerivedSpend where
  summary : SpendSummary
  nativeTotalMojos : Nat
  deriving DecidableEq, Repr

def SpendSummary.retier (summary : SpendSummary) (policy : CustodyPolicy) (total : Nat) :
    SpendTier :=
  match SpendTier.classify policy total with
  | .autoSend =>
      if summary.movesNonNativeAssets || summary.destroysSingletons || summary.movesNfts then
        .confirm
      else .autoSend
  | tier => tier

def DerivedSpend.derive (coinSpends : List CoinSpend) (policy : CustodyPolicy) :
    Except AccountError DerivedSpend := do
  let effect ← deriveEffect coinSpends
  let summary ← SpendSummary.fromEffect effect coinSpends .confirm
  let total ← summary.checkedNativeTotalMojos
  return {
    summary := { summary with tier := summary.retier policy total }
    nativeTotalMojos := total }

end DigAccount
