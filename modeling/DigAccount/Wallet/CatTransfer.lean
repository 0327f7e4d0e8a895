import DigAccount.Wallet.TransferPlan

namespace DigAccount

def maxCatTransferInputCoins : Nat := maxTransferInputCoins

def feeBindingMessage : Bytes :=
  "dig-account:cat-transfer".toList.map fun c => UInt8.ofNat c.toNat

inductive CatTransferError where
  | insufficientDig (required available : Nat)
  | coinsReserved (required available selectable : Nat)
  | reservationUnusable (detail : String)
  | tooManyInputCoins (needed cap : Nat)
  | noXchForFee (required available : Nat)
  | selfPayment
  | zeroAmount
  | vaultTransferUnsupported
  | balanceUnjudgeable
  | lineageUnavailable (coinId : Bytes32) (reason : String)
  | chainUnreachable (reason : String)
  | build (reason : String)
  deriving DecidableEq, Repr

structure Cat (π : Type) where
  coin : Coin
  assetId : Bytes32
  proof : π
  deriving DecidableEq, Repr

class CatDrivers extends TransferDrivers where
  CatProof : Type
  Node : Type
  InnerSpend : Type
  digAssetId : Bytes32
  curryTreeHash : Bytes32 → Bytes32 → Bytes32
  nodeFromBytes : Program → Except String Node
  parseChildren : Coin → Node → Node → Except String (Option (List (Cat CatProof)))
  spendWithConditions : Bytes32 → List (Condition Memos) → Except String InnerSpend
  spendAll : List (Cat CatProof × InnerSpend) → Except String (List CoinSpend)

open TransferDrivers CatDrivers

structure CatTransferRequest where
  recipient : Bytes32
  amountBaseUnits : Nat
  feeMojos : Nat
  deriving DecidableEq, Repr

structure CatTransferPlan where
  coinSpends : List CoinSpend
  digSourceCoinIds : List Bytes32
  xchSourceCoinIds : List Bytes32
  recipient : Bytes32
  amountBaseUnits : Nat
  feeMojos : Nat
  changeBaseUnits : Nat
  reservation : Option ReservationId
  deriving DecidableEq, Repr

def catCurriedPuzzleHash [CatDrivers] (assetId p2PuzzleHash : Bytes32) : Bytes32 :=
  curryTreeHash assetId p2PuzzleHash

section Selection

variable [CoinHash]

def confirmedUnspent (puzzleHash : Bytes32) : List CoinRecord → List Bytes32 → List Coin
  | [], _ => []
  | record :: records, seen =>
      if record.isSpent ∨ record.confirmedHeight.isNone then
        confirmedUnspent puzzleHash records seen
      else if record.coin.puzzleHash ≠ puzzleHash then confirmedUnspent puzzleHash records seen
      else if coinId record.coin ∈ seen then confirmedUnspent puzzleHash records seen
      else record.coin :: confirmedUnspent puzzleHash records (coinId record.coin :: seen)

def fewestCatCoins (required : Nat) (spendable : List Coin) :
    Except CatTransferError (List Coin) :=
  match spendable.find? fun coin => required ≤ coin.amount with
  | some single => .ok [single]
  | none =>
      let selected := accumulate required 0 spendable.reverse
      if maxCatTransferInputCoins < selected.length then
        .error (.tooManyInputCoins selected.length maxCatTransferInputCoins)
      else .ok selected

def chooseCatCoins (catPuzzleHash : Bytes32) (required : Nat) (reserved : List Bytes32)
    (records : List CoinRecord) : Except CatTransferError (List Coin) :=
  let spendable := (confirmedUnspent catPuzzleHash records []).mergeSort smallerFirst
  match totalAmount spendable with
  | none => .error .balanceUnjudgeable
  | some available =>
      if available < required then .error (.insufficientDig required available)
      else
        let free := spendable.filter fun coin => coinId coin ∉ reserved
        match totalAmount free with
        | none => .error .balanceUnjudgeable
        | some selectable =>
            if selectable < required then
              .error (.coinsReserved required available selectable)
            else fewestCatCoins required free

def chooseFeeCoins (p2PuzzleHash : Bytes32) (feeMojos : Nat) (reserved : List Bytes32)
    (records : List CoinRecord) : Except CatTransferError (List Coin) :=
  let listed := confirmedUnspent p2PuzzleHash records []
  match totalAmount listed with
  | none => .error .balanceUnjudgeable
  | some available =>
      let spendable := listed.mergeSort smallerFirst
      let ownsACoveringCoin := spendable.any fun coin => feeMojos ≤ coin.amount
      let free := spendable.filter fun coin => coinId coin ∉ reserved
      match totalAmount free with
      | none => .error .balanceUnjudgeable
      | some selectable =>
          match free.find? fun coin => feeMojos ≤ coin.amount with
          | some coin => .ok [coin]
          | none =>
              if ownsACoveringCoin then .error (.coinsReserved feeMojos available selectable)
              else .error (.noXchForFee feeMojos available)

def listAndConfirm (puzzleHash : Bytes32)
    (choose : List CoinRecord → Except CatTransferError (List Coin)) :
    HostReads CatTransferError (List Coin) := do
  let records ← .mapError CatTransferError.chainUnreachable
    (Reads.query (HostCall.coinRecordsByPuzzleHash puzzleHash false))
  let selected ← .ofExcept (choose records)
  onChain (.mapError (fun e => CatTransferError.chainUnreachable e.display)
    (confirmAllSpendableByName selected))
  pure selected

def selectFeeCoins (p2PuzzleHash : Bytes32) (feeMojos : Nat) (reserved : List Bytes32) :
    HostReads CatTransferError (List Coin) :=
  if feeMojos = 0 then pure []
  else listAndConfirm p2PuzzleHash (chooseFeeCoins p2PuzzleHash feeMojos reserved)

variable [CatDrivers]

def selectCatCoins (assetId p2PuzzleHash : Bytes32) (required : Nat) (reserved : List Bytes32) :
    HostReads CatTransferError (List Coin) :=
  let catPuzzleHash := catCurriedPuzzleHash assetId p2PuzzleHash
  listAndConfirm catPuzzleHash (chooseCatCoins catPuzzleHash required reserved)

def selectBothLegs (assetId p2PuzzleHash : Bytes32) (request : CatTransferRequest)
    (excluded : List Bytes32) :
    HostReads CatTransferError ((List Coin × List Coin) × List Bytes32) := do
  let catCoins ← selectCatCoins assetId p2PuzzleHash request.amountBaseUnits excluded
  let feeCoins ← selectFeeCoins p2PuzzleHash request.feeMojos excluded
  pure ((catCoins, feeCoins), (catCoins ++ feeCoins).map coinId)

end Selection

section Lineage

variable [CoinHash] [CatDrivers]

def proveCat (assetId : Bytes32) (coin : Coin) (parent : Option CoinSpend) :
    Except CatTransferError (Cat CatProof) :=
  let unprovable := CatTransferError.lineageUnavailable (coinId coin)
  match parent with
  | none => .error (unprovable "its parent spend is unknown to this source")
  | some parent => do
      let puzzle ← (nodeFromBytes parent.puzzleReveal).mapError fun e =>
        unprovable s!"the parent puzzle reveal does not decode: {e}"
      let solution ← (nodeFromBytes parent.solution).mapError fun e =>
        unprovable s!"the parent solution does not decode: {e}"
      let parsed ← (parseChildren parent.coin puzzle solution).mapError fun e =>
        unprovable s!"the parent spend could not be parsed: {e}"
      match parsed with
      | none => .error (unprovable "the parent coin is not a CAT")
      | some children =>
          match children.find? fun child => coinId child.coin = coinId coin with
          | none =>
              .error (unprovable "the parent spend does not create this coin as a CAT child")
          | some cat =>
              if cat.assetId ≠ assetId then
                .error (unprovable
                  (s!"it is a CAT of asset {hex32 cat.assetId} rather than the " ++
                    s!"{hex32 assetId} being spent"))
              else .ok cat

def resolveLineage (assetId : Bytes32) :
    List Coin → ChainReads CatTransferError (List (Cat CatProof))
  | [] => pure []
  | coin :: coins => do
      let parent ← readParentSpend .chainUnreachable (coinId coin)
      let cat ← .ofExcept (proveCat assetId coin parent)
      let cats ← resolveLineage assetId coins
      pure (cat :: cats)

end Lineage

section Builder

variable [CatDrivers] (wallet : WalletKey)

def digChangeOf (cats : List (Cat CatProof)) (request : CatTransferRequest) :
    Except CatTransferError Nat :=
  match totalAmount (cats.map Cat.coin) with
  | none => .error (.build "the selected $DIG coins overflow u64")
  | some total =>
      if total < request.amountBaseUnits then
        .error (.build "the selected $DIG coins do not cover the transfer")
      else .ok (total - request.amountBaseUnits)

def catHint (what : String) (puzzleHash : Bytes32) : Except CatTransferError Memos :=
  (hint puzzleHash).mapError fun e => .build s!"{what} hint: {e}"

def catLeadConditions (request : CatTransferRequest) (change : Nat)
    (recipientHint changeHint : Memos) (feeCoins : List Coin) : List (Condition Memos) :=
  [.createCoin request.recipient request.amountBaseUnits (some recipientHint)] ++
    (if 0 < change then [.createCoin wallet.puzzleHash change (some changeHint)] else []) ++
    (if feeCoins.isEmpty then [] else [.createCoinAnnouncement feeBindingMessage])

def catInputs (leadConditions : List (Condition Memos)) :
    Nat → List (Cat CatProof) → Except CatTransferError (List (Cat CatProof × InnerSpend))
  | _, [] => .ok []
  | index, cat :: cats => do
      let conditions := if cats.isEmpty then leadConditions else []
      let spend ← (spendWithConditions wallet.publicKey conditions).mapError fun e =>
        CatTransferError.build s!"$DIG input {index}: {e}"
      let spends ← catInputs leadConditions (index + 1) cats
      return (cat, spend) :: spends

def feeConditions (request : CatTransferRequest) (binding : Bytes32) (feeChange index : Nat) :
    List (Condition Memos) :=
  [.assertCoinAnnouncement binding] ++
    if index = 0 then
      (if 0 < request.feeMojos then [.reserveFee request.feeMojos] else []) ++
        (if 0 < feeChange then [.createCoin wallet.puzzleHash feeChange none] else [])
    else []

def feeInputs (conditionsAt : Nat → List (Condition Memos)) :
    Nat → List Coin → Except CatTransferError (List CoinSpend)
  | _, [] => .ok []
  | index, coin :: coins => do
      let spend ← (standardSpend wallet.publicKey coin (conditionsAt index)).mapError fun e =>
        CatTransferError.build s!"fee input {index}: {e}"
      let spends ← feeInputs conditionsAt (index + 1) coins
      return spend :: spends

def feeSpends (request : CatTransferRequest) (binding : Bytes32) (feeCoins : List Coin) :
    Except CatTransferError (List CoinSpend) :=
  match totalAmount feeCoins with
  | none => .error (.build "the fee coins overflow u64")
  | some feeTotal =>
      if feeCoins.isEmpty then .ok []
      else if feeTotal < request.feeMojos then .error (.build "the fee coins do not cover the fee")
      else
        feeInputs wallet (feeConditions wallet request binding (feeTotal - request.feeMojos)) 0
          feeCoins

def buildDigTransferSpends [CoinHash] (cats : List (Cat CatProof)) (feeCoins : List Coin)
    (request : CatTransferRequest) (reservation : Option ReservationId) :
    Except CatTransferError CatTransferPlan :=
  match cats.getLast? with
  | none => .error (.build "no $DIG coins were selected")
  | some lead => do
      let change ← digChangeOf cats request
      let recipientHint ← catHint "recipient" request.recipient
      let changeHint ← catHint "change" wallet.puzzleHash
      let inputs ← catInputs wallet
        (catLeadConditions wallet request change recipientHint changeHint feeCoins) 0 cats
      let ring ← (spendAll inputs).mapError fun e => CatTransferError.build s!"the $DIG ring: {e}"
      let binding := announcementId (coinId lead.coin) feeBindingMessage
      let fees ← feeSpends wallet request binding feeCoins
      return {
        coinSpends := ring ++ fees
        digSourceCoinIds := cats.map fun cat => coinId cat.coin
        xchSourceCoinIds := feeCoins.map coinId
        recipient := request.recipient
        amountBaseUnits := request.amountBaseUnits
        feeMojos := request.feeMojos
        changeBaseUnits := change
        reservation := reservation }

end Builder

section Transfers

variable [CoinHash] [CatDrivers] (wallet : WalletKey)

def resolveAndBuild (assetId : Bytes32) (request : CatTransferRequest)
    (catCoins feeCoins : List Coin) : HostReads CatTransferError CatTransferPlan := do
  let cats ← onChain (resolveLineage assetId catCoins)
  .ofExcept (buildDigTransferSpends wallet cats feeCoins request none)

def buildCatTransfer (custody : CustodyPolicy) (assetId : Bytes32) (request : CatTransferRequest)
    (reservations : CoinReservations) : HostReads CatTransferError CatTransferPlan :=
  match custody with
  | .vault _ => .fail .vaultTransferUnsupported
  | .hot _ =>
      if request.amountBaseUnits = 0 then .fail .zeroAmount
      else if request.recipient = wallet.puzzleHash then .fail .selfPayment
      else do
        let ((catCoins, feeCoins), held) ← reservations.selectAndReserve maxReservationAttempts
          (selectBothLegs assetId wallet.puzzleHash request)
          (fun e => .reservationUnusable e.display)
        let built ← Fallible.outcome (resolveAndBuild wallet assetId request catCoins feeCoins)
        let plan ← CoinReservations.orRelease held built
        pure { plan with reservation := some held }

def buildDigTransfer (custody : CustodyPolicy) (request : CatTransferRequest)
    (reservations : CoinReservations) : HostReads CatTransferError CatTransferPlan :=
  buildCatTransfer wallet custody CatDrivers.digAssetId request reservations

end Transfers

end DigAccount
