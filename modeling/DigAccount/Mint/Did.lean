import DigAccount.Chain.Node
import DigAccount.Mint.RewardDistributor

namespace DigAccount

open Ledger

inductive MintStatus [DidEncoding] where
  | confirmed (minted : MintedDid)
  | awaiting (blocksSincePush : Nat)
  | failed (reason : String)

section Status

variable [CoinHash] [DidEncoding]

def PendingMint.judgeSource (pending : PendingMint) (peak : Nat)
    (didRecord source : Option CoinRecord) : MintStatus :=
  if didRecord.isNone ∧ source.any CoinRecord.isSpent then
    .failed "the funding coin was spent by a different spend; this mint can never confirm"
  else .awaiting (peak - pending.pushedAtHeight)

def mintStatus (pending : PendingMint) : ChainReads MintError MintStatus := do
  let peak ← peakHeight .chainUnreachable
  let didRecord ← readCoinRecord .chainUnreachable pending.didCoinId
  match didRecord.bind (MintedDid.fromConfirmed pending · peak) with
  | some minted => pure (.confirmed minted)
  | none => do
      let source ← readCoinRecord .chainUnreachable pending.sourceCoinId
      pure (pending.judgeSource peak didRecord source)

variable {pending : PendingMint} {oracle : Oracle} {i peak : Nat}

theorem mintStatus_ok {status : MintStatus}
    (h : (mintStatus pending).run oracle i = .ok status) :
    ∃ peak didRecord, oracle i .peakHeight = .ok (some peak) ∧
      oracle (i + 1) (.coinRecord pending.didCoinId) = .ok didRecord ∧
      ((∃ minted, didRecord.bind (MintedDid.fromConfirmed pending · peak) = some minted ∧
          status = .confirmed minted) ∨
        ∃ source, didRecord.bind (MintedDid.fromConfirmed pending · peak) = none ∧
          oracle (i + 2) (.coinRecord pending.sourceCoinId) = .ok source ∧
          status = pending.judgeSource peak didRecord source) := by
  obtain ⟨peak, hpeak, h⟩ := Fallible.run_bind_eq_ok.1 h
  rw [after_peakHeight hpeak] at h
  obtain ⟨didRecord, hdid, h⟩ := Fallible.run_bind_eq_ok.1 h
  rw [run_readCoinRecord, Fallible.mapError_eq_ok] at hdid
  refine ⟨peak, didRecord, run_peakHeight.1 hpeak, hdid, ?_⟩
  split at h
  · rename_i minted hminted
    exact .inl ⟨minted, hminted, (Except.ok.inj h).symm⟩
  · rename_i hnone
    obtain ⟨source, hsource, h⟩ := Fallible.run_bind_eq_ok.1 h
    rw [run_readCoinRecord, Fallible.mapError_eq_ok, after_readCoinRecord] at hsource
    exact .inr ⟨source, hnone, hsource, (Except.ok.inj h).symm⟩

theorem run_mintStatus_absent {source : Option CoinRecord}
    (hpeak : oracle i .peakHeight = .ok (some peak))
    (hdid : oracle (i + 1) (.coinRecord pending.didCoinId) = .ok none)
    (hsource : oracle (i + 2) (.coinRecord pending.sourceCoinId) = .ok source) :
    (mintStatus pending).run oracle i = .ok (pending.judgeSource peak none source) := by
  have hrun : (peakHeight MintError.chainUnreachable).run oracle i = .ok peak :=
    run_peakHeight.2 hpeak
  rw [mintStatus]
  rw [Fallible.run_bind_of_ok hrun, after_peakHeight hrun, run_readCoinRecord_bind hdid]
  exact Fallible.run_bind_of_ok (run_readCoinRecord_ok hsource)

omit [CoinHash] in
theorem judgeSource_failed {didRecord source : Option CoinRecord} {reason : String}
    (h : pending.judgeSource peak didRecord source = .failed reason) :
    didRecord = none ∧ ∃ record, source = some record ∧ record.isSpent := by
  rw [PendingMint.judgeSource] at h
  split at h
  · rename_i hdead
    obtain ⟨record, hrecord, hspent⟩ := (Option.any_eq_true _ _).1 hdead.2
    exact ⟨Option.isNone_iff_eq_none.1 hdead.1, record, hrecord, hspent⟩
  · cases h

omit [CoinHash] in
theorem judgeSource_spent {source : Option CoinRecord} (h : source.any CoinRecord.isSpent) :
    ∃ reason, pending.judgeSource peak none source = .failed reason :=
  ⟨_, if_pos ⟨rfl, h⟩⟩

theorem mintStatus_failed {reason : String}
    (h : (mintStatus pending).run oracle i = .ok (.failed reason)) :
    oracle (i + 1) (.coinRecord pending.didCoinId) = .ok none ∧
      ∃ record, oracle (i + 2) (.coinRecord pending.sourceCoinId) = .ok (some record) ∧
        record.isSpent := by
  obtain ⟨peak, didRecord, -, hdid, ⟨minted, -, hstatus⟩ | ⟨source, -, hsource, hstatus⟩⟩ :=
    mintStatus_ok h
  · cases hstatus
  · obtain ⟨rfl, record, rfl, hspent⟩ := judgeSource_failed hstatus.symm
    exact ⟨hdid, record, hsource, hspent⟩

end Status

structure SignedDidMint [CoinHash] [Clvm] where
  bundle : SpendBundle
  launcherId : Bytes32
  didCoinId : Bytes32
  sourceCoinId : Bytes32
  spends_source : bundle.Spends sourceCoinId
  creates_did : bundle.Creates didCoinId

namespace SignedDidMint

variable [CoinHash] [Clvm] [DidEncoding] {mint : SignedDidMint} {chain : Chain}
  {schedule : Schedule} {i height pushedAtHeight : Nat}

omit [DidEncoding] in
def pendingAt (mint : SignedDidMint) (pushedAtHeight : Nat) : PendingMint where
  launcherId := mint.launcherId
  didCoinId := mint.didCoinId
  sourceCoinId := mint.sourceCoinId
  pushedAtHeight := pushedAtHeight

theorem mintStatus_not_failed (honest : HonestChain chain)
    (included : Includes chain mint.bundle height) (source : HonestSource chain schedule)
    (clear : schedule.moment (i + 1) ≤ height → schedule.moment (i + 2) ≤ height)
    (reason : String) :
    (mintStatus (mint.pendingAt pushedAtHeight)).run source.answer i ≠ .ok (.failed reason) := by
  intro h
  obtain ⟨habsent, record, hrecord, hspent⟩ := mintStatus_failed h
  have hunseen := (included.created_take honest mint.creates_did _).symm.trans
    (source.absent habsent)
  have hlate : schedule.moment (i + 1) ≤ height := by
    by_contra hlt
    rw [if_pos (Nat.lt_of_not_le hlt)] at hunseen
    cases hunseen
  have hunspent := (source.recorded hrecord).2.2.trans
    (included.spent_take honest mint.spends_source _)
  rw [if_neg (Nat.not_lt.2 (clear hlate))] at hunspent
  rw [CoinRecord.isSpent, hunspent] at hspent
  cases hspent

theorem failed_between_reads (honest : HonestChain chain)
    (included : Includes chain mint.bundle height) (hlate : schedule.moment (i + 1) ≤ height)
    (hearly : height < schedule.moment (i + 2)) :
    ∃ source : HonestSource chain schedule, ∃ reason,
      (mintStatus (mint.pendingAt pushedAtHeight)).run source.answer i =
        .ok (.failed reason) := by
  have habsent : Truthful (chain.take (schedule.moment (i + 1))) (schedule.pruned (i + 1))
      (.coinRecord mint.didCoinId) (.ok none) := by
    have hconfirmed := included.created_take honest mint.creates_did (schedule.moment (i + 1))
    rw [if_neg (Nat.not_lt.2 hlate)] at hconfirmed
    exact (congrArg (confirmedHeight · _) ledgerOf_take).trans hconfirmed
  let node := HonestSource.node mint.bundle.index chain schedule
  let source := node.withAnswer (i + 1) _ _ habsent
  have hother : ∀ k, k ≠ i + 1 → source.answer k = node.answer k :=
    fun _ hk => HonestSource.withAnswer_of_ne hk
  have hnamed : coinId (mint.bundle.index.coin mint.sourceCoinId) = mint.sourceCoinId := by
    obtain ⟨coinSpend, hmem, hcoin⟩ := mint.spends_source
    rw [← hcoin]
    exact SpendBundle.index_names_spent hmem
  obtain ⟨found, hfound, -, hspent⟩ :=
    NodeIndex.record_eq (chain.take (schedule.moment (i + 2))) hnamed
  have hspentSource : found.any CoinRecord.isSpent := by
    rw [ledgerOf_take, included.spent_take honest mint.spends_source, if_pos hearly] at hspent
    obtain ⟨record, rfl, hheight⟩ := Option.bind_eq_some_iff.1 hspent
    rw [Option.any_some, CoinRecord.isSpent, hheight]
    rfl
  have hstatus : (mintStatus (mint.pendingAt pushedAtHeight)).run source.answer i =
      .ok ((mint.pendingAt pushedAtHeight).judgeSource _ none found) :=
    run_mintStatus_absent (by rw [hother i (by omega)]; rfl) HonestSource.withAnswer_self
      (by rw [hother (i + 2) (by omega)]; exact hfound)
  obtain ⟨reason, hreason⟩ := judgeSource_spent hspentSource
  exact ⟨source, reason, hstatus.trans (congrArg Except.ok hreason)⟩

theorem mintStatus_never_failed_iff (mint : SignedDidMint) (honest : HonestChain chain)
    (included : Includes chain mint.bundle height) (schedule : Schedule)
    (i pushedAtHeight : Nat) :
    (∀ source : HonestSource chain schedule, ∀ reason,
        (mintStatus (mint.pendingAt pushedAtHeight)).run source.answer i ≠
          .ok (.failed reason)) ↔
      (schedule.moment (i + 1) ≤ height → schedule.moment (i + 2) ≤ height) := by
  constructor
  · intro hsafe hlate
    by_contra hearly
    obtain ⟨source, reason, hfailed⟩ :=
      failed_between_reads honest included hlate (Nat.lt_of_not_le hearly)
    exact hsafe source reason hfailed
  · exact fun clear source reason => mintStatus_not_failed honest included source clear reason

end SignedDidMint

section Example

@[reducible] def idAsDid : DidEncoding where
  didStringFromLauncherId := hex32

def mintOutputs : SpendBundle := ⟨[⟨namedCoin 1, [], [2]⟩, ⟨namedCoin 2, [], [3]⟩], []⟩

@[reducible] def didOutputs : Clvm where
  additions coinSpend := coinSpend.solution.map fun byte => ⟨coinSpend.coin.amount, 0, byte.toNat⟩
  recreation _ := none
  advertisedDistributor _ _ := none
  didState id := ⟨namedCoin id, id, 0⟩

def didMint : letI := amountNames; letI := didOutputs; SignedDidMint :=
  letI := amountNames
  letI := didOutputs
  { bundle := mintOutputs
    launcherId := 2
    didCoinId := 3
    sourceCoinId := 1
    spends_source := by decide
    creates_did := by decide }

def didChain : Chain :=
  [⟨[namedCoin 1], []⟩, ⟨[], mintOutputs.coinSpends⟩] ++ List.replicate 6 ⟨[], []⟩

theorem didChain_honest :
    letI := amountNames
    letI := didOutputs
    HonestChain didChain := by
  let _ := amountNames
  let _ := didOutputs
  exact FreshChain.honest (by decide)

theorem mintStatus_never_failed_iff_didMint :
    letI := amountNames
    letI := didOutputs
    letI := idAsDid
    Includes didChain didMint.bundle 1 ∧
      ∀ source : HonestSource didChain catchingUp, ∀ reason,
        (mintStatus (didMint.pendingAt 1)).run source.answer 0 ≠ .ok (.failed reason) := by
  let _ := amountNames
  let _ := didOutputs
  let _ := idAsDid
  have included : Includes didChain didMint.bundle 1 :=
    ⟨⟨[], didMint.bundle.coinSpends⟩, rfl, List.Subset.refl _⟩
  exact ⟨included, (SignedDidMint.mintStatus_never_failed_iff didMint didChain_honest included
    catchingUp 0 1).2 (by decide)⟩

theorem straddling_buries_didMint :
    letI := amountNames
    letI := didOutputs
    letI := idAsDid
    HonestChain didChain ∧
      Includes (didChain.take (straddling.moment 2)) didMint.bundle 1 ∧
      (mintStatus (didMint.pendingAt 1)).run
          (HonestSource.node amountIndex didChain straddling).answer 0 =
        .ok (.failed
          "the funding coin was spent by a different spend; this mint can never confirm") := by
  let _ := amountNames
  let _ := didOutputs
  let _ := idAsDid
  exact ⟨didChain_honest, ⟨⟨[], didMint.bundle.coinSpends⟩, rfl, List.Subset.refl _⟩, rfl⟩

end Example

end DigAccount
