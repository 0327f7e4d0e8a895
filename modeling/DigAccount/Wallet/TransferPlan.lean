import DigAccount.Chain.Confirm
import DigAccount.Wallet.Host
import DigAccount.Wallet.Policy
import DigAccount.Wallet.Transfer

namespace DigAccount

def maxTransferInputCoins : Nat := 12

def inputBindingMessage : Bytes := "dig-account:transfer".toList.map fun c => UInt8.ofNat c.toNat

inductive Condition (μ : Type) where
  | createCoin (puzzleHash : Bytes32) (amount : Nat) (memos : Option μ)
  | reserveFee (amount : Nat)
  | createCoinAnnouncement (message : Bytes)
  | assertCoinAnnouncement (announcementId : Bytes32)
  deriving DecidableEq, Repr

class TransferDrivers where
  Memos : Type
  hint : Bytes32 → Except String Memos
  announcementId : Bytes32 → Bytes → Bytes32
  standardSpend : Bytes32 → Coin → List (Condition Memos) → Except String CoinSpend

open TransferDrivers

structure TransferRequest where
  recipient : Bytes32
  amountMojos : Nat
  feeMojos : Nat
  deriving DecidableEq, Repr

def TransferRequest.requiredTotal (request : TransferRequest) : Except TransferError Nat :=
  match checkedAdd u64Max request.amountMojos request.feeMojos with
  | none => .error (.amountOverflow request.amountMojos request.feeMojos)
  | some required => .ok required

structure TransferPlan where
  coinSpends : List CoinSpend
  paymentCoinId : Bytes32
  sourceCoinIds : List Bytes32
  recipient : Bytes32
  amountMojos : Nat
  feeMojos : Nat
  changeMojos : Nat
  reservation : Option ReservationId
  deriving DecidableEq, Repr

def TransferPlan.pushedAt (plan : TransferPlan) (prePushPeak : Nat) : PendingTransfer where
  paymentCoinId := plan.paymentCoinId
  sourceCoinIds := plan.sourceCoinIds
  recipient := plan.recipient
  amountMojos := plan.amountMojos
  feeMojos := plan.feeMojos
  changeMojos := plan.changeMojos
  inputTotalMojos := plan.amountMojos + plan.feeMojos + plan.changeMojos
  pushedAtHeight := prePushPeak

def PendingTransfer.maxReplacementFeeMojos (pending : PendingTransfer) : Nat :=
  pending.feeMojos + pending.changeMojos

def totalAmount (coins : List Coin) : Option Nat := checkedSum u64Max 0 (coins.map Coin.amount)

section Builder

variable [TransferDrivers] (wallet : WalletKey)

def leadConditions (request : TransferRequest) (change : Nat) (memos : Memos)
    (secondaries : List Coin) : List (Condition Memos) :=
  [.createCoin request.recipient request.amountMojos (some memos)] ++
    (if 0 < change then [.createCoin wallet.puzzleHash change none] else []) ++
    (if 0 < request.feeMojos then [.reserveFee request.feeMojos] else []) ++
    (if secondaries.isEmpty then [] else [.createCoinAnnouncement inputBindingMessage])

def spendLead (lead : Coin) (conditions : List (Condition Memos)) :
    Except TransferError CoinSpend :=
  match standardSpend wallet.publicKey lead conditions with
  | .error e => .error (.build s!"lead input: {e}")
  | .ok spend => .ok spend

def spendSecondary (binding : Bytes32) (coin : Coin) : Except TransferError CoinSpend :=
  match standardSpend wallet.publicKey coin [.assertCoinAnnouncement binding] with
  | .error e => .error (.build s!"secondary input: {e}")
  | .ok spend => .ok spend

def recipientHint (recipient : Bytes32) : Except TransferError Memos :=
  match hint recipient with
  | .error e => .error (.build s!"recipient hint: {e}")
  | .ok memos => .ok memos

def changeOf (selected : List Coin) (request : TransferRequest) : Except TransferError Nat :=
  match totalAmount selected with
  | none => .error (.build "the selected inputs overflow u64")
  | some total => do
      let required ← request.requiredTotal
      if total < required then .error (.build "the selected inputs do not cover the transfer")
      else .ok (total - required)

variable [CoinHash]

def buildTransferSpends (selected : List Coin) (request : TransferRequest)
    (reservation : Option ReservationId) : Except TransferError TransferPlan :=
  match selected.getLast? with
  | none => .error (.build "no input coins were selected")
  | some lead => do
      let secondaries := selected.dropLast
      let change ← changeOf selected request
      let memos ← recipientHint request.recipient
      let leadSpend ←
        spendLead wallet lead (leadConditions wallet request change memos secondaries)
      let binding := announcementId (coinId lead) inputBindingMessage
      let secondarySpends ← secondaries.mapM (spendSecondary wallet binding)
      return {
        coinSpends := leadSpend :: secondarySpends
        paymentCoinId := coinId ⟨coinId lead, request.recipient, request.amountMojos⟩
        sourceCoinIds := selected.map coinId
        recipient := request.recipient
        amountMojos := request.amountMojos
        feeMojos := request.feeMojos
        changeMojos := change
        reservation := reservation }

end Builder

section Selection

variable [CoinHash]

def judgeListing (puzzleHash : Bytes32) :
    List CoinRecord → List Bytes32 → List Coin × List Bytes32
  | [], _ => ([], [])
  | record :: records, seen =>
      if record.isSpent then judgeListing puzzleHash records seen
      else if record.coin.puzzleHash ≠ puzzleHash then judgeListing puzzleHash records seen
      else if record.confirmedHeight.isNone then
        let (spendable, unjudgeable) := judgeListing puzzleHash records seen
        (spendable, coinId record.coin :: unjudgeable)
      else if coinId record.coin ∈ seen then judgeListing puzzleHash records seen
      else
        let (spendable, unjudgeable) :=
          judgeListing puzzleHash records (coinId record.coin :: seen)
        (record.coin :: spendable, unjudgeable)

def smallerFirst (a b : Coin) : Bool :=
  a.amount < b.amount ∨ a.amount = b.amount ∧ coinId a ≤ coinId b

def accumulate (required : Nat) : Nat → List Coin → List Coin
  | _, [] => []
  | total, coin :: coins =>
      let total := saturatingAdd u64Max total coin.amount
      if required ≤ total then [coin] else coin :: accumulate required total coins

def fewestCoins (required : Nat) (spendable : List Coin) : Except TransferError (List Coin) :=
  match spendable.find? fun coin => required ≤ coin.amount with
  | some single => .ok [single]
  | none =>
      let selected := accumulate required 0 spendable.reverse
      if maxTransferInputCoins < selected.length then
        .error (.tooManyInputCoins selected.length maxTransferInputCoins)
      else .ok selected

def chooseInputCoins (puzzleHash : Bytes32) (required : Nat) (reserved : List Bytes32)
    (records : List CoinRecord) : Except TransferError (List Coin) :=
  let (listed, unjudgeable) := judgeListing puzzleHash records []
  let spendable := listed.mergeSort smallerFirst
  match totalAmount spendable with
  | none => .error .balanceUnjudgeable
  | some available =>
      if available < required then
        match unjudgeable with
        | coinId :: _ => .error (.spendabilityUnknown coinId)
        | [] => .error (.insufficientFunds required available)
      else
        let free := spendable.filter fun coin => coinId coin ∉ reserved
        match totalAmount free with
        | none => .error .balanceUnjudgeable
        | some selectable =>
            if selectable < required then
              .error (.coinsReserved required available selectable)
            else fewestCoins required free

def selectInputCoins (puzzleHash : Bytes32) (required : Nat) (reserved : List Bytes32) :
    HostReads TransferError (List Coin) := do
  let records ← .mapError TransferError.chainUnreachable
    (Reads.query (HostCall.coinRecordsByPuzzleHash puzzleHash false))
  let selected ← .ofExcept (chooseInputCoins puzzleHash required reserved records)
  onChain (.mapError (fun e => TransferError.chainUnreachable e.display)
    (confirmAllSpendableByName selected))
  pure selected

def selectWithIds (puzzleHash : Bytes32) (required : Nat) (reserved : List Bytes32) :
    HostReads TransferError (List Coin × List Bytes32) := do
  let coins ← selectInputCoins puzzleHash required reserved
  pure (coins, coins.map coinId)

end Selection

section Transfers

variable [CoinHash] [TransferDrivers] (wallet : WalletKey)

def buildTransfer (custody : CustodyPolicy) (request : TransferRequest)
    (reservations : CoinReservations) : HostReads TransferError TransferPlan :=
  match custody with
  | .vault _ => .fail .vaultTransferUnsupported
  | .hot _ =>
      if request.amountMojos = 0 then .fail .zeroAmount
      else if request.recipient = wallet.puzzleHash then .fail .selfPayment
      else do
        let required ← .ofExcept request.requiredTotal
        let (selected, held) ← reservations.selectAndReserve maxReservationAttempts
          (selectWithIds wallet.puzzleHash required)
          (fun e => .reservationUnusable e.display)
        let plan ← CoinReservations.orRelease held
          (buildTransferSpends wallet selected request none)
        pure { plan with reservation := some held }

def judgeReread (asked : Bytes32) : Option CoinRecord → Except TransferError Coin
  | none => .error (.sourcesNoLongerSpendable asked)
  | some record =>
      if coinId record.coin ≠ asked then
        .error (.chainUnreachable
          (s!"the chain source answered a request for coin {hex32 asked} with a record for " ++
            hex32 (coinId record.coin)))
      else if record.confirmedHeight.isNone ∨ record.isSpent then
        .error (.sourcesNoLongerSpendable asked)
      else if record.coin.puzzleHash ≠ wallet.puzzleHash then
        .error (.unexpectedCoinPuzzleHash asked record.coin.puzzleHash)
      else .ok record.coin

def rereadSpendableInput (id : Bytes32) : ChainReads TransferError Coin := do
  let record ← readCoinRecord .chainUnreachable id
  .ofExcept (judgeReread wallet id record)

def rereadInputs : List Bytes32 → ChainReads TransferError (List Coin)
  | [] => pure []
  | id :: ids => do
      let coin ← rereadSpendableInput wallet id
      let coins ← rereadInputs ids
      pure (coin :: coins)

def coverReplacement (required : Nat) (inputs : List Coin) : Except TransferError Unit :=
  match totalAmount inputs with
  | none => .error .balanceUnjudgeable
  | some reusedTotal =>
      if reusedTotal < required then
        .error (.replacementInputsInsufficient required reusedTotal)
      else .ok ()

def buildTransferReplacing (custody : CustodyPolicy) (pending : PendingTransfer)
    (newFeeMojos : Nat) : ChainReads TransferError TransferPlan :=
  match custody with
  | .vault _ => .fail .vaultTransferUnsupported
  | .hot _ =>
      if newFeeMojos ≤ pending.feeMojos then
        .fail (.replacementFeeNotHigher pending.feeMojos newFeeMojos)
      else do
        let request : TransferRequest := ⟨pending.recipient, pending.amountMojos, newFeeMojos⟩
        let required ← .ofExcept request.requiredTotal
        let inputs ← rereadInputs wallet pending.sourceCoinIds
        .ofExcept (coverReplacement required inputs)
        .ofExcept (buildTransferSpends wallet inputs request none)

end Transfers

end DigAccount
