import DigAccount.Chain.Node
import DigAccount.Mint.Evidence

namespace DigAccount

open Ledger

inductive TransferError where
  | insufficientFunds (required available : Nat)
  | coinsReserved (required available selectable : Nat)
  | reservationUnusable (detail : String)
  | tooManyInputCoins (needed cap : Nat)
  | vaultTransferUnsupported
  | selfPayment
  | zeroAmount
  | balanceUnjudgeable
  | amountOverflow (amount fee : Nat)
  | sourcesNoLongerSpendable (coinId : Bytes32)
  | replacementInputsInsufficient (required reusedTotal : Nat)
  | replacementFeeNotHigher (current proposed : Nat)
  | spendabilityUnknown (coinId : Bytes32)
  | unexpectedCoinPuzzleHash (coinId puzzleHash : Bytes32)
  | chainUnreachable (reason : String)
  | build (reason : String)
  deriving DecidableEq, Repr

structure PendingTransfer where
  paymentCoinId : Bytes32
  sourceCoinIds : List Bytes32
  recipient : Bytes32
  amountMojos : Nat
  feeMojos : Nat
  changeMojos : Nat
  inputTotalMojos : Nat
  pushedAtHeight : Nat
  deriving DecidableEq, Repr

structure ConfirmedTransfer where
  paymentCoinId : Bytes32
  recipient : Bytes32
  amountMojos : Nat
  confirmedHeight : Nat
  deriving DecidableEq, Repr

inductive TransferStatus where
  | confirmed (settled : ConfirmedTransfer)
  | awaiting (blocksSincePush : Nat)
  | failed (reason : String)
  deriving DecidableEq, Repr

def deathNotice (sourceId : Bytes32) (spentHeight spendDepth : Nat) : String :=
  s!"input coin {hex32 sourceId} was spent by a different spend at height {spentHeight}, now " ++
    s!"buried under {spendDepth} blocks; this transfer can never confirm"

def proofOfDeath (pending : PendingTransfer) (peak : Nat) :
    List Bytes32 → ChainReads TransferError (Option String)
  | [] => pure none
  | sourceId :: rest => do
      let found ← readCoinRecord .chainUnreachable sourceId
      match found.bind CoinRecord.spentHeight with
      | none => proofOfDeath pending peak rest
      | some spentHeight =>
          if spentHeight = 0 then proofOfDeath pending peak rest
          else if depthOf peak spentHeight < minConfirmationDepth then
            proofOfDeath pending peak rest
          else do
            let payment ← readCoinRecord .chainUnreachable pending.paymentCoinId
            if payment.isSome then pure none
            else pure (some (deathNotice sourceId spentHeight (depthOf peak spentHeight)))

def proofUnlessSeen (pending : PendingTransfer) (peak : Nat) :
    Option CoinRecord → ChainReads TransferError (Option String)
  | none => proofOfDeath pending peak pending.sourceCoinIds
  | some _ => pure none

def CoinRecord.BuriedSpend (peak height : Nat) (record : CoinRecord) : Prop :=
  record.spentHeight = some height ∧ height ≠ 0 ∧ minConfirmationDepth ≤ depthOf peak height

inductive Condemns (oracle : Oracle) (pending : PendingTransfer) (peak : Nat) :
    Nat → List Bytes32 → CoinRecord → Prop
  | here {i : Nat} {id : Bytes32} {rest : List Bytes32} {record : CoinRecord} {height : Nat}
      (answered : oracle i (.coinRecord id) = .ok (some record))
      (buried : record.BuriedSpend peak height)
      (absent : oracle (i + 1) (.coinRecord pending.paymentCoinId) = .ok none) :
      Condemns oracle pending peak i (id :: rest) record
  | later {i : Nat} {id : Bytes32} {rest : List Bytes32} {record : CoinRecord}
      {found : Option CoinRecord} (answered : oracle i (.coinRecord id) = .ok found)
      (alive : ∀ other ∈ found, ∀ height, ¬ other.BuriedSpend peak height)
      (next : Condemns oracle pending peak (i + 1) rest record) :
      Condemns oracle pending peak i (id :: rest) record

section Status

variable [CoinHash]

def ConfirmedTransfer.fromConfirmed (pending : PendingTransfer) (record : CoinRecord)
    (peak : Nat) : Option ConfirmedTransfer :=
  (buriedHeight pending.paymentCoinId pending.pushedAtHeight record peak).map fun height => {
    paymentCoinId := pending.paymentCoinId
    recipient := pending.recipient
    amountMojos := pending.amountMojos
    confirmedHeight := height }

def transferStatus (pending : PendingTransfer) : ChainReads TransferError TransferStatus := do
  let peak ← peakHeight .chainUnreachable
  let payment ← readCoinRecord .chainUnreachable pending.paymentCoinId
  match payment.bind (ConfirmedTransfer.fromConfirmed pending · peak) with
  | some settled => pure (.confirmed settled)
  | none => do
      let death ← proofUnlessSeen pending peak payment
      match death with
      | some reason => pure (.failed reason)
      | none => pure (.awaiting (peak - pending.pushedAtHeight))

structure PendingTransfer.Broadcast [Clvm] (pending : PendingTransfer) (bundle : SpendBundle) :
    Prop where
  spends_sources : ∀ id ∈ pending.sourceCoinIds, ∃ coinSpend ∈ bundle.coinSpends,
    coinId coinSpend.coin = id
  creates_payment : ∃ coinSpend ∈ bundle.coinSpends, pending.paymentCoinId ∈ coinSpend.created

variable {pending : PendingTransfer} {oracle : Oracle} {i peak : Nat} {ids : List Bytes32}

omit [CoinHash] in
theorem proofOfDeath_cons (pending : PendingTransfer) (peak : Nat) (id : Bytes32)
    (rest : List Bytes32) :
    ∃ judge : Option CoinRecord → ChainReads TransferError (Option String),
      proofOfDeath pending peak (id :: rest) = readCoinRecord .chainUnreachable id >>= judge ∧
      (∀ found, (∀ other ∈ found, ∀ height, ¬ other.BuriedSpend peak height) →
        judge found = proofOfDeath pending peak rest) ∧
      ∀ record height, record.BuriedSpend peak height →
        judge (some record) =
          readCoinRecord .chainUnreachable pending.paymentCoinId >>= fun payment =>
            if payment.isSome then pure none
            else pure (some (deathNotice id height (depthOf peak height))) := by
  refine ⟨_, rfl, fun found alive => ?_, fun record height buried => ?_⟩
  · cases hspent : found.bind CoinRecord.spentHeight with
    | none => rfl
    | some height =>
        obtain ⟨record, rfl, hheight⟩ := Option.bind_eq_some_iff.1 hspent
        dsimp only
        by_cases hgenesis : height = 0
        · rw [if_pos hgenesis]
        by_cases hshallow : depthOf peak height < minConfirmationDepth
        · rw [if_neg hgenesis, if_pos hshallow]
        · exact absurd ⟨hheight, hgenesis, Nat.le_of_not_lt hshallow⟩ (alive record rfl height)
  · have hspent : (some record).bind CoinRecord.spentHeight = some height := buried.1
    rw [hspent]
    dsimp only
    rw [if_neg buried.2.1, if_neg (Nat.not_lt_of_le buried.2.2)]

omit [CoinHash] in
theorem proofOfDeath_condemns {reason : String}
    (h : (proofOfDeath pending peak ids).run oracle i = .ok (some reason)) :
    ∃ record, Condemns oracle pending peak i ids record := by
  induction ids generalizing i with
  | nil => cases h
  | cons id rest ih =>
      obtain ⟨judge, hjudge, halive, hburied⟩ := proofOfDeath_cons pending peak id rest
      rw [hjudge] at h
      obtain ⟨found, hfound, h⟩ := Fallible.run_bind_eq_ok.1 h
      rw [run_readCoinRecord, Fallible.mapError_eq_ok] at hfound
      rw [after_readCoinRecord] at h
      by_cases hdead : ∃ record ∈ found, ∃ height, record.BuriedSpend peak height
      · obtain ⟨record, rfl, height, hspent⟩ := hdead
        rw [hburied record height hspent] at h
        obtain ⟨payment, hpayment, h⟩ := Fallible.run_bind_eq_ok.1 h
        rw [run_readCoinRecord, Fallible.mapError_eq_ok] at hpayment
        cases payment with
        | some seen => cases h
        | none => exact ⟨record, .here hfound hspent hpayment⟩
      · push Not at hdead
        rw [halive found hdead] at h
        obtain ⟨record, hcondemns⟩ := ih h
        exact ⟨record, .later hfound hdead hcondemns⟩

omit [CoinHash] in
theorem Condemns.source {record : CoinRecord} (h : Condemns oracle pending peak i ids record) :
    ∃ id ∈ ids, ∃ j height, oracle j (.coinRecord id) = .ok (some record) ∧
      record.spentHeight = some height ∧
      oracle (j + 1) (.coinRecord pending.paymentCoinId) = .ok none := by
  induction h with
  | here answered buried absent =>
      exact ⟨_, List.mem_cons_self .., _, _, answered, buried.1, absent⟩
  | later answered alive next ih =>
      obtain ⟨id, hmem, hsource⟩ := ih
      exact ⟨id, List.mem_cons_of_mem _ hmem, hsource⟩

theorem transferStatus_failed_condemns {reason : String}
    (h : (transferStatus pending).run oracle i = .ok (.failed reason)) :
    ∃ peak record, oracle i .peakHeight = .ok (some peak) ∧
      oracle (i + 1) (.coinRecord pending.paymentCoinId) = .ok none ∧
      Condemns oracle pending peak (i + 2) pending.sourceCoinIds record := by
  obtain ⟨peak, hpeak, h⟩ := Fallible.run_bind_eq_ok.1 h
  rw [after_peakHeight hpeak] at h
  obtain ⟨payment, hpayment, h⟩ := Fallible.run_bind_eq_ok.1 h
  rw [after_readCoinRecord] at h
  rw [run_readCoinRecord, Fallible.mapError_eq_ok] at hpayment
  split at h
  · cases h
  obtain ⟨death, hdeath, h⟩ := Fallible.run_bind_eq_ok.1 h
  cases death with
  | none => cases h
  | some found =>
      cases payment with
      | some seen => cases hdeath
      | none =>
          obtain ⟨record, hcondemns⟩ := proofOfDeath_condemns hdeath
          exact ⟨peak, record, run_peakHeight.1 hpeak, hpayment, hcondemns⟩


theorem transferStatus_failed {reason : String}
    (h : (transferStatus pending).run oracle i = .ok (.failed reason)) :
    ∃ id ∈ pending.sourceCoinIds, ∃ j record height,
      oracle j (.coinRecord id) = .ok (some record) ∧ record.spentHeight = some height ∧
        oracle (j + 1) (.coinRecord pending.paymentCoinId) = .ok none := by
  obtain ⟨peak, record, -, -, hcondemns⟩ := transferStatus_failed_condemns h
  obtain ⟨id, hid, j, height, hsource⟩ := hcondemns.source
  exact ⟨id, hid, j, record, height, hsource⟩

theorem transferStatus_never_buries_alive [Clvm] {chain : Chain} {schedule : Schedule}
    {bundle : SpendBundle} {height : Nat} (honest : HonestChain chain)
    (source : HonestSource chain schedule) (own : pending.Broadcast bundle)
    (included : Includes chain bundle height) (reason : String) :
    (transferStatus pending).run source.answer i ≠ .ok (.failed reason) := by
  intro h
  obtain ⟨id, hid, j, record, spent, hrecord, hspent, habsent⟩ := transferStatus_failed h
  obtain ⟨input, hinput, rfl⟩ := own.spends_sources id hid
  obtain ⟨payer, hpayer, hcreated⟩ := own.creates_payment
  have hspentAt := (source.recorded hrecord).2.2.symm.trans hspent
  rw [included.spentHeight_take honest hinput] at hspentAt
  have hearlier : height < schedule.moment j := by
    by_contra hge
    rw [if_neg hge] at hspentAt
    cases hspentAt
  have hlater : height < schedule.moment (j + 1) :=
    hearlier.trans_le (schedule.forward (Nat.le_succ j))
  have hconfirmed := included.confirmedHeight_take honest hpayer hcreated (schedule.moment (j + 1))
  rw [source.absent habsent, if_pos hlater] at hconfirmed
  cases hconfirmed

end Status

section Example

@[reducible] def byteOutputs : Clvm where
  additions coinSpend := coinSpend.solution.map fun byte => ⟨coinSpend.coin.amount, 0, byte.toNat⟩
  recreation _ := none
  advertisedDistributor _ _ := none
  didState id := ⟨namedCoin id, id, 0⟩

def payOne : SpendBundle := ⟨[⟨namedCoin 1, [], [2]⟩], []⟩

def paidChain : Chain :=
  [⟨[namedCoin 1], []⟩, ⟨[], payOne.coinSpends⟩] ++ List.replicate 6 ⟨[], []⟩

def payment : PendingTransfer where
  paymentCoinId := 2
  sourceCoinIds := [1]
  recipient := 0
  amountMojos := 2
  feeMojos := 0
  changeMojos := 0
  inputTotalMojos := 2
  pushedAtHeight := 1

theorem transferStatus_never_buries_alive_paidChain :
    letI := amountNames
    letI := byteOutputs
    Includes paidChain payOne 1 ∧ ∀ reason, (transferStatus payment).run
      (HonestSource.node amountIndex paidChain catchingUp).answer 0 ≠ .ok (.failed reason) := by
  let _ := amountNames
  let _ := byteOutputs
  have honest : HonestChain paidChain := FreshChain.honest (by decide)
  have own : payment.Broadcast payOne :=
    ⟨by decide, by decide⟩
  have included : Includes paidChain payOne 1 := ⟨⟨[], payOne.coinSpends⟩, rfl, by simp⟩
  exact ⟨included, fun reason => transferStatus_never_buries_alive honest _ own included reason⟩

end Example

end DigAccount
