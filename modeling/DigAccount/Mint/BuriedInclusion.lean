import DigAccount.Mint.Did
import DigAccount.Mint.LaunchDead
import DigAccount.Mint.Profile
import DigAccount.Wallet.Transfer

namespace DigAccount

open Ledger

section Verdicts

variable [CoinHash] {oracle : Oracle} {i peak height : Nat} {record : CoinRecord}

theorem buriedHeight_isSome_iff {expected : Bytes32} (pushedAt : Nat)
    (hname : coinId record.coin = expected) (hheight : record.confirmedHeight = some height)
    (hne : pushedAt ≤ height → height ≠ 0)
    (hdeep : minConfirmationDepth ≤ depthOf peak height) :
    (buriedHeight expected pushedAt record peak).isSome ↔ pushedAt ≤ height := by
  simp only [Option.isSome_iff_exists, buriedHeight_eq_some, hname, hheight, Option.some.injEq,
    true_and]
  constructor
  · rintro ⟨h, rfl, -, hpushed, -⟩
    exact hpushed
  · intro hpushed
    exact ⟨height, rfl, hne hpushed, hpushed, hdeep⟩

theorem transferStatus_confirmed_iff {pending : PendingTransfer} {payment : Option CoinRecord}
    (hpeak : oracle i .peakHeight = .ok (some peak))
    (hpayment : oracle (i + 1) (.coinRecord pending.paymentCoinId) = .ok payment) :
    (∃ settled, (transferStatus pending).run oracle i = .ok (.confirmed settled)) ↔
      (payment.bind (ConfirmedTransfer.fromConfirmed pending · peak)).isSome := by
  have hread := exec_readCoinRecord_ok TransferError.chainUnreachable hpayment
  simp only [← Fallible.fst_exec, transferStatus,
    Fallible.exec_bind_of_ok (exec_peakHeight TransferError.chainUnreachable hpeak),
    Fallible.exec_bind_of_ok hread]
  cases payment.bind (ConfirmedTransfer.fromConfirmed pending · peak) with
  | some settled => exact iff_of_true ⟨settled, rfl⟩ rfl
  | none =>
      refine iff_of_false ?_ (by simp)
      rintro ⟨settled, h⟩
      obtain ⟨death, -, hverdict⟩ := Fallible.run_bind_eq_ok.1 h
      cases death with
      | none => cases hverdict
      | some reason => cases hverdict

theorem mintStatus_confirmed_iff [DidEncoding] {pending : PendingMint}
    {didRecord : Option CoinRecord} (hpeak : oracle i .peakHeight = .ok (some peak))
    (hdid : oracle (i + 1) (.coinRecord pending.didCoinId) = .ok didRecord) :
    (∃ minted, (mintStatus pending).run oracle i = .ok (.confirmed minted)) ↔
      (didRecord.bind (MintedDid.fromConfirmed pending · peak)).isSome := by
  have hread := exec_readCoinRecord_ok MintError.chainUnreachable hdid
  simp only [← Fallible.fst_exec, mintStatus,
    Fallible.exec_bind_of_ok (exec_peakHeight MintError.chainUnreachable hpeak),
    Fallible.exec_bind_of_ok hread]
  cases didRecord.bind (MintedDid.fromConfirmed pending · peak) with
  | some minted => exact iff_of_true ⟨minted, rfl⟩ rfl
  | none =>
      refine iff_of_false ?_ (by simp)
      rintro ⟨minted, h⟩
      obtain ⟨source, -, hverdict⟩ := Fallible.run_bind_eq_ok.1 h
      have hjudged : pending.judgeSource peak didRecord source = .confirmed minted :=
        Except.ok.inj hverdict
      rw [PendingMint.judgeSource] at hjudged
      split at hjudged
      · cases hjudged
      · cases hjudged

namespace PendingRewardDistributor

variable {pending : PendingRewardDistributor} {discovered : DiscoveredDistributor}

theorem judgeEvidence_confirmed_iff :
    (∃ evidence, pending.judgeEvidence peak record discovered = .confirmed evidence) ↔
      pending.check record discovered peak = .ok () := by
  rw [judgeEvidence]
  split
  · rename_i hcheck
    exact iff_of_true ⟨_, rfl⟩ hcheck
  · rename_i hcheck
    refine iff_of_false ?_ (by simp [hcheck])
    rintro ⟨evidence, h⟩
    cases h
  · rename_i defect hne hcheck
    refine iff_of_false ?_ (by simp [hcheck])
    rintro ⟨evidence, h⟩
    cases h

theorem check_own_iff (hname : coinId record.coin = pending.distributorLauncherId)
    (hheight : record.confirmedHeight = some height) (hne : height ≠ 0)
    (hdeep : minConfirmationDepth ≤ depthOf peak height) :
    pending.check record ⟨pending.distributorLauncherId, pending.generation⟩ peak = .ok () ↔
      pending.pushedAtHeight ≤ height := by
  by_cases hpredates : height < pending.pushedAtHeight
  · simp [check, hname, hheight, hne, hpredates, Nat.not_le.2 hpredates]
  · simp [check, hname, hheight, hne, hpredates, Nat.not_lt.2 hdeep, Nat.le_of_not_lt hpredates]

theorem status_confirmed_iff (hpeak : oracle i .peakHeight = .ok (some peak))
    (hlauncher : oracle (i + 1) (.coinRecord pending.distributorLauncherId) = .ok (some record))
    (hdiscovered : oracle (i + 2) (.discoverDistributor pending.distributorLauncherId) =
      .ok (some ⟨pending.distributorLauncherId, pending.generation⟩))
    (hname : coinId record.coin = pending.distributorLauncherId)
    (hheight : record.confirmedHeight = some height) (hne : height ≠ 0)
    (hdeep : minConfirmationDepth ≤ depthOf peak height) :
    (∃ evidence, pending.status.run oracle i = .ok (.confirmed evidence)) ↔
      pending.pushedAtHeight ≤ height := by
  have hsome : record.confirmedHeight.isSome := by rw [hheight]; rfl
  rw [run_status hpeak hlauncher, run_judgeLauncher_confirmed hsome hdiscovered]
  simp only [Except.ok.injEq, judgeDiscovery]
  rw [judgeEvidence_confirmed_iff, check_own_iff hname hheight hne hdeep]

end PendingRewardDistributor

end Verdicts

structure CurrentReads (oracle : Oracle) (i peak : Nat) : Prop where
  peak : oracle i .peakHeight = .ok (some peak)
  records : ∀ k id, ∃ found, oracle k (.coinRecord id) = .ok found
  discoveries : ∀ k id, ∃ found, oracle k (.discoverDistributor id) = .ok found

section Current

variable [CoinHash] [Clvm] {chain : Chain} {i peak height : Nat} {bundle : SpendBundle}
  {source : HonestSource chain (steadyAt chain.length)}

theorem CurrentReads.seen (reads : CurrentReads source.answer i peak) {id : Bytes32} (k : Nat)
    (h : confirmedHeight (ledgerOf chain) id = some height) :
    ∃ record, source.answer k (.coinRecord id) = .ok (some record) ∧
      coinId record.coin = id ∧ record.confirmedHeight = some height := by
  have hnow : confirmedHeight ((ledgerOf chain).take chain.length) id = some height := by
    rwa [← ledgerOf_take, List.take_length]
  obtain ⟨found, hfound⟩ := reads.records k id
  cases found with
  | none => cases hnow.symm.trans (source.absent hfound)
  | some record =>
      obtain ⟨hname, hconfirmed, -⟩ := source.recorded hfound
      exact ⟨record, hfound, hname, hconfirmed.trans hnow⟩

theorem CurrentReads.discovers {mint : SignedRewardDistributorMint}
    (reads : CurrentReads source.answer i peak) (honest : HonestChain chain)
    (included : Includes chain mint.bundle height) (k : Nat) :
    source.answer k (.discoverDistributor mint.distributorLauncherId) =
      .ok (some ⟨mint.distributorLauncherId, mint.generation⟩) := by
  obtain ⟨found, hfound⟩ := reads.discoveries k mint.distributorLauncherId
  have htruth := source.truthful k (.discoverDistributor mint.distributorLauncherId)
  rw [hfound] at htruth
  rw [hfound]
  cases found with
  | none =>
      obtain ⟨own, hown, hlaunched, hadvertised⟩ :=
        SignedRewardDistributorMint.launcher_in_snapshot included included.lt_length
      rcases htruth with hpruned | hunadvertised
      · exact hpruned.elim
      · exact absurd (hunadvertised own hown hlaunched) hadvertised
  | some discovered =>
      obtain ⟨coinSpend, hmem, hcreated, hadvertised⟩ := htruth
      rw [SignedRewardDistributorMint.advertised_own honest included included.lt_length hmem
        hcreated] at hadvertised
      rw [Option.some.inj hadvertised]

section Deep

variable (honest : HonestChain chain) (reads : CurrentReads source.answer i peak)
  (included : Includes chain bundle height) (deep : height + minConfirmationDepth ≤ peak + 1)
include honest reads included deep

omit [CoinHash] [Clvm] honest reads included in
theorem deepEnough : minConfirmationDepth ≤ depthOf peak height := by
  rw [le_depthOf (by decide)]
  omega

theorem transfer_confirmed_iff {pending : PendingTransfer} (own : pending.Broadcast bundle) :
    (∃ settled, (transferStatus pending).run source.answer i = .ok (.confirmed settled)) ↔
      pending.pushedAtHeight ≤ height := by
  obtain ⟨coinSpend, hmem, hcreated⟩ := own.creates_payment
  obtain ⟨record, hrecord, hname, hheight⟩ :=
    reads.seen (i + 1) (included.confirmedHeight_eq honest ⟨coinSpend, hmem, hcreated⟩)
  rw [transferStatus_confirmed_iff reads.peak hrecord, Option.bind_some,
    ConfirmedTransfer.fromConfirmed, Option.isSome_map]
  exact buriedHeight_isSome_iff _ hname hheight (fun _ => included.height_ne_zero honest hmem)
    (deepEnough deep)

theorem didMint_confirmed_iff [DidEncoding] {mint : SignedDidMint} (hown : mint.bundle = bundle)
    (pushedAtHeight : Nat) :
    (∃ minted, (mintStatus (mint.pendingAt pushedAtHeight)).run source.answer i =
      .ok (.confirmed minted)) ↔ pushedAtHeight ≤ height := by
  subst hown
  obtain ⟨coinSpend, hmem, -⟩ := mint.creates_did
  obtain ⟨record, hrecord, hname, hheight⟩ :=
    reads.seen (i + 1) (included.confirmedHeight_eq honest mint.creates_did)
  have hread : source.answer (i + 1) (.coinRecord (mint.pendingAt pushedAtHeight).didCoinId) =
      .ok (some record) := hrecord
  rw [mintStatus_confirmed_iff reads.peak hread, Option.bind_some, MintedDid.fromConfirmed_isSome]
  exact buriedHeight_isSome_iff _ hname hheight (fun _ => included.height_ne_zero honest hmem)
    (deepEnough deep)

omit honest reads deep in
theorem spent_did_confirmed (parented : ParentedChain chain) {id : Bytes32}
    (hspent : bundle.Spends id) :
    ∃ created, created ≤ height ∧ confirmedHeight (ledgerOf chain) id = some created := by
  obtain ⟨coinSpend, hmem, rfl⟩ := hspent
  have hknown := parented.spent (height + 1) coinSpend
    (included.mem_take hmem (Nat.lt_succ_self height))
  obtain ⟨created, hcreated⟩ := Option.ne_none_iff_exists'.1 hknown
  obtain ⟨hlt, hat⟩ := findIdx?_take.1 hcreated
  exact ⟨created, Nat.le_of_lt_succ hlt, hat⟩

theorem storeLaunch_confirmed_iff [DidEncoding] (parented : ParentedChain chain)
    {registry : ProfileRegistry} {ix : ProfileIx} {mint : ProfileMintInProgress}
    {did : MintedDid} {pendingStore : PendingStoreLaunchRecord}
    (hmint : registry.journalledMint ix = .ok mint)
    (hstage : mint.stage = .storePushed (.ofMinted did) pendingStore)
    (hspent : bundle.Spends did.coinId) (hcreated : bundle.Creates pendingStore.storeCoinId) :
    (∃ minted store, (profileMintStatus registry ix).run source.answer i =
      .ok (.confirmed minted store)) ↔
      pendingStore.pushedAtHeight ≤ height ∧
        ∃ created, confirmedHeight (ledgerOf chain) did.coinId = some created ∧
          did.confirmedHeight ≤ created := by
  obtain ⟨created, hle, hdid⟩ := spent_did_confirmed included parented hspent
  obtain ⟨didRecord, hdidRecord, hdidName, hdidHeight⟩ := reads.seen (i + 1) hdid
  obtain ⟨record, hrecord, hname, hheight⟩ :=
    reads.seen (i + 2) (included.confirmedHeight_eq honest hcreated)
  have hplaced : did.confirmedHeight ≤ created → created ≠ 0 := by
    intro hfloor hzero
    exact did.height_ne_zero (Nat.le_zero.1 (hzero ▸ hfloor))
  obtain ⟨coinSpend, hmem, -⟩ := hcreated
  have hdeep : created + minConfirmationDepth ≤ peak + 1 := by omega
  have hdidHalf := buriedHeight_isSome_iff did.confirmedHeight hdidName hdidHeight hplaced
    (deepEnough hdeep)
  have hstoreHalf := buriedHeight_isSome_iff pendingStore.pushedAtHeight hname hheight
    (fun _ => included.height_ne_zero honest hmem) (deepEnough deep)
  rw [profileMintStatus_store hmint hstage reads.peak hdidRecord hrecord, Option.bind_some,
    Option.bind_some, MintedDid.reverified, MintedDid.fromConfirmed_isSome,
    ConfirmedStore.fromConfirmed_isSome]
  refine (and_congr hdidHalf hstoreHalf).trans ⟨?_, ?_⟩
  · rintro ⟨hfloor, hpushed⟩
    exact ⟨hpushed, created, hdid, hfloor⟩
  · rintro ⟨hpushed, other, hother, hfloor⟩
    cases hdid.symm.trans hother
    exact ⟨hfloor, hpushed⟩

theorem distributor_confirmed_iff {mint : SignedRewardDistributorMint}
    (hown : mint.bundle = bundle) (pushedAtHeight : Nat) :
    (∃ evidence, (mint.pendingAt pushedAtHeight).status.run source.answer i =
      .ok (.confirmed evidence)) ↔ pushedAtHeight ≤ height := by
  subst hown
  obtain ⟨coinSpend, hmem, hcreated, -⟩ := mint.launches
  obtain ⟨record, hrecord, hname, hheight⟩ :=
    reads.seen (i + 1) (included.confirmedHeight_eq honest ⟨coinSpend, hmem, hcreated⟩)
  exact PendingRewardDistributor.status_confirmed_iff reads.peak hrecord
    (reads.discovers honest included (i + 2)) hname hheight (included.height_ne_zero honest hmem)
    (deepEnough deep)

theorem buried_inclusion_confirmed_iff [DidEncoding] (parented : ParentedChain chain) :
    (∀ pending : PendingTransfer, pending.Broadcast bundle →
        ((∃ settled, (transferStatus pending).run source.answer i = .ok (.confirmed settled)) ↔
          pending.pushedAtHeight ≤ height)) ∧
      (∀ mint : SignedDidMint, mint.bundle = bundle → ∀ pushedAtHeight,
        ((∃ minted, (mintStatus (mint.pendingAt pushedAtHeight)).run source.answer i =
            .ok (.confirmed minted)) ↔ pushedAtHeight ≤ height)) ∧
      (∀ (registry : ProfileRegistry) ix mint (did : MintedDid) pendingStore,
        registry.journalledMint ix = .ok mint →
        mint.stage = .storePushed (.ofMinted did) pendingStore →
        bundle.Spends did.coinId → bundle.Creates pendingStore.storeCoinId →
        ((∃ minted store, (profileMintStatus registry ix).run source.answer i =
            .ok (.confirmed minted store)) ↔
          pendingStore.pushedAtHeight ≤ height ∧
            ∃ created, confirmedHeight (ledgerOf chain) did.coinId = some created ∧
              did.confirmedHeight ≤ created)) ∧
      (∀ mint : SignedRewardDistributorMint, mint.bundle = bundle → ∀ pushedAtHeight,
        ((∃ evidence, (mint.pendingAt pushedAtHeight).status.run source.answer i =
            .ok (.confirmed evidence)) ↔ pushedAtHeight ≤ height)) := by
  refine ⟨fun pending own => ?_, fun mint hown pushedAtHeight => ?_,
    fun registry ix mint did pendingStore hmint hstage hspent hcreated => ?_,
    fun mint hown pushedAtHeight => ?_⟩
  · exact transfer_confirmed_iff honest reads included deep own
  · exact didMint_confirmed_iff honest reads included deep hown pushedAtHeight
  · exact storeLaunch_confirmed_iff honest reads included deep parented hmint hstage hspent
      hcreated
  · exact distributor_confirmed_iff honest reads included deep hown pushedAtHeight

end Deep

end Current

section Example

def deskWaiting : Chain := deskBase ++ List.replicate 3 emptyBlock

def deskSettled : Chain :=
  deskBase ++ ⟨[], deskBundle.coinSpends⟩ :: List.replicate 6 emptyBlock

theorem deskSettled_honest : letI := pairHash; letI := deskClvm; HonestChain deskSettled := by
  let _ := pairHash
  let _ := deskClvm
  exact FreshChain.honest (by decide +kernel)

theorem deskSettled_parented : letI := pairHash; letI := deskClvm
    ParentedChain deskSettled := by
  let _ := pairHash
  let _ := deskClvm
  have hzero : ∀ block ∈ deskSettled, ∀ reward ∈ block.rewards, reward.parentCoinInfo = 0 := by
    decide +kernel
  refine .of_take (by decide +kernel) (fun block hblock reward hreward => ?_) (by decide +kernel)
  exact pairHash_unparented (hzero block hblock reward hreward)

theorem deskWaiting_reorganised : letI := pairHash; letI := deskClvm
    Reorganised deskWaiting deskSettled := by
  let _ := pairHash
  let _ := deskClvm
  apply Relation.ReflTransGen.single
  have hbranch : Reorganisation.Step minConfirmationDepth deskWaiting
      (deskWaiting.take 2 ++ ⟨[], deskBundle.coinSpends⟩ :: List.replicate 6 emptyBlock) 2 :=
    .replace (by decide) (by decide) (by decide)
  exact ⟨⟨2, hbranch⟩, deskSettled_honest⟩

theorem reorganised_inclusion_failed :
    letI := pairHash
    letI := deskClvm
    letI := deskRewards
    Reorganised deskWaiting deskSettled ∧
      (∃ pushed : HonestSource deskWaiting (steadyAt deskWaiting.length),
        deskLaunch.submit.run pushed.answer 0 = .ok (deskLaunch.pendingAt 5)) ∧
      Includes deskSettled deskLaunch.bundle 2 ∧ 2 + minConfirmationDepth ≤ deskSettled.length ∧
      ∃ source : HonestSource deskSettled (steadyAt deskSettled.length),
        (deskLaunch.pendingAt 5).status.run source.answer 0 =
          .ok (.failed ("the confirmed launcher's evidence does not describe this pending mint " ++
            "(PredatesPush)")) := by
  let _ := pairHash
  let _ := deskClvm
  let _ := deskRewards
  let index : NodeIndex := .naming [deskFunding, deskRewardCat, deskSecurity, deskLauncher] id
  refine ⟨deskWaiting_reorganised, ⟨.node index _ _, by decide +kernel⟩,
    ⟨⟨[], deskBundle.coinSpends⟩, rfl, List.Subset.refl _⟩, by decide, .node index _ _, ?_⟩
  decide +kernel

theorem deskSettled_reads :
    letI := pairHash
    letI := deskClvm
    CurrentReads (HonestSource.node deskIndex deskSettled (steadyAt deskSettled.length)).answer
      0 9 := by
  let _ := pairHash
  let _ := deskClvm
  refine ⟨rfl, fun k id => ?_, fun k id => ⟨_, rfl⟩⟩
  exact deskIndex_records deskSettled id (by decide +kernel)

theorem buried_inclusion_confirmed_iff_desk :
    letI := pairHash
    letI := deskClvm
    letI := deskRewards
    ∃ evidence, (deskLaunch.pendingAt 2).status.run
      (HonestSource.node deskIndex deskSettled (steadyAt deskSettled.length)).answer 0 =
        .ok (.confirmed evidence) := by
  let _ := pairHash
  let _ := deskClvm
  let _ := deskRewards
  let _ := idAsDid
  have included : Includes deskSettled deskLaunch.bundle 2 :=
    ⟨⟨[], deskBundle.coinSpends⟩, rfl, List.Subset.refl _⟩
  obtain ⟨-, -, -, hdistributor⟩ := buried_inclusion_confirmed_iff deskSettled_honest
    deskSettled_reads included (by decide) deskSettled_parented
  exact (hdistributor deskLaunch.toSignedRewardDistributorMint rfl 2).2 (by decide)

end Example

end DigAccount
