import DigAccount.Chain.Honest
import DigAccount.Mint.DoorSafety
import Mathlib.Algebra.Order.BigOperators.Group.List
import Mathlib.Algebra.Order.Group.Nat

namespace DigAccount

open Validator Fallible Ledger RewardsDrivers DoorDrivers RewardDoor

structure Commitment where
  funder : WalletKey
  slot : CommitmentSlot
  deriving DecidableEq, Repr

section Doors

variable [CoinHash] [Clvm] [DigDrivers] [ChiaBls] [DoorDrivers]

def Commitment.Funded (commitment : Commitment) : Prop :=
  ∃ request network signed staging conditions,
    beginRewardDistributorRefill commitment.funder request network = .ok signed ∧
      stageRefill commitment.funder request = .ok (staging, conditions) ∧
        commitment.slot.value = committedValue staging

structure Recovery where
  wallet : WalletKey
  request : RewardDistributorClawbackRequest
  network : MintNetwork
  signed : SignedRewardDistributorClawback
  height : Nat

namespace Recovery

def slot (recovery : Recovery) : CommitmentSlot := recovery.request.commitmentSlot

structure Settled (chain : Chain) (recovery : Recovery) : Prop where
  signed : beginRewardDistributorClawback recovery.wallet recovery.request recovery.network =
    .ok recovery.signed
  included : Includes chain recovery.signed.bundle recovery.height

-- one block spends the slot coin once, whoever else's bundle names that very spend
def SameWithdrawal (first second : Recovery) : Prop :=
  first.height = second.height ∧ ∃ spend ∈ first.signed.bundle.coinSpends,
    spend ∈ second.signed.bundle.coinSpends ∧ coinId spend.coin = coinId first.slot.coin

end Recovery

def fundedUnder (commitments : List Commitment) (puzzleHash : Bytes32) : Nat :=
  ((commitments.filter fun commitment => commitment.funder.puzzleHash = puzzleHash).map
    fun commitment => commitment.slot.value.rewards).sum

def recoveredUnder (recoveries : List Recovery) (puzzleHash : Bytes32) : Nat :=
  ((recoveries.filter fun recovery => recovery.wallet.puzzleHash = puzzleHash).map
    fun recovery => recovery.signed.recoveredBaseUnits).sum

variable {wallet : WalletKey} {network : MintNetwork} {commitment : Commitment}

theorem Commitment.Funded.authority (h : commitment.Funded) :
    commitment.slot.value.clawbackPh = commitment.funder.puzzleHash := by
  obtain ⟨request, network, signed, staging, conditions, hsigned, hstaged, hvalue⟩ := h
  rw [hvalue, commit_records _ _ _ _ _ _ _ (mapError_eq_ok.1 hstaged)]

section Settled

variable {chain : Chain} {first second recovery : Recovery}

theorem clawback_spends_slot {request : RewardDistributorClawbackRequest}
    {signed : SignedRewardDistributorClawback}
    (h : beginRewardDistributorClawback wallet request network = .ok signed) :
    signed.bundle.Spends (coinId request.commitmentSlot.coin) := by
  have hroot : coinId request.commitmentSlot.coin ∈ rootIds signed.bundle.coinSpends := by
    rw [(clawback_eq_ok h).1.roots]
    simp [permitted, RewardDistributorClawbackRequest.permittedRoots]
  obtain ⟨root, hmem, hid⟩ := mem_rootIds.1 hroot
  exact ⟨root, (mem_bundleRoots.1 hmem).1, hid⟩

theorem Recovery.Settled.funder (h : recovery.Settled chain) (hfunded : commitment.Funded)
    (hslot : recovery.slot = commitment.slot) :
    recovery.wallet.puzzleHash = commitment.funder.puzzleHash := by
  have hfit := judgeClawback_ok.1 (clawback_eq_ok h.signed).1.judged
  rw [← hfunded.authority, ← hslot]
  exact hfit.authority.symm

theorem Recovery.Settled.recovered_le (h : recovery.Settled chain)
    (hshare : recovery.request.distributor.constants.withdrawalShareBps ≤ 10000) :
    recovery.signed.recoveredBaseUnits ≤ recovery.slot.value.rewards := by
  obtain ⟨staging, withdrawal, hwithdrawn, hrecovered⟩ :=
    buildClawback_recovers (clawback_eq_ok h.signed).2
  rw [hrecovered, (withdraw_bounded _ _ _ _ _ _ _ hwithdrawn).2]
  exact Nat.div_le_of_le_mul ((Nat.mul_le_mul_left _ hshare).trans_eq (Nat.mul_comm _ _))

theorem Recovery.Settled.once (honest : HonestChain chain) (hfirst : first.Settled chain)
    (hsecond : second.Settled chain) (hslot : coinId first.slot.coin = coinId second.slot.coin) :
    first.SameWithdrawal second := by
  have hspends := clawback_spends_slot hfirst.signed
  have hother := clawback_spends_slot hsecond.signed
  have hspent := hfirst.included.spentHeight_eq honest hspends
  have hspentAgain := hsecond.included.spentHeight_eq honest hother
  obtain ⟨spend, hmem, hid⟩ := hspends
  obtain ⟨again, hagain, hidAgain⟩ := hother
  have hsame : coinId spend.coin = coinId again.coin := hid.trans (hslot.trans hidAgain.symm)
  obtain rfl : spend = again := by
    refine coinSpend_unique honest.consistent.causal ?_ ?_ hsame
    · exact mem_of_take (hfirst.included.mem_take hmem (Nat.lt_succ_self _))
    · exact mem_of_take (hsecond.included.mem_take hagain (Nat.lt_succ_self _))
  refine ⟨?_, spend, hmem, hagain, hid⟩
  rw [show coinId first.request.commitmentSlot.coin = coinId second.request.commitmentSlot.coin
    from hslot, hspentAgain] at hspent
  exact (Option.some.inj hspent).symm

theorem Recovery.Settled.refuses_later (honest : HonestChain chain) (h : recovery.Settled chain)
    {schedule : Schedule} (source : HonestSource chain schedule) {i : Nat}
    (hlate : recovery.height < schedule.moment i) {request : RewardDistributorClawbackRequest}
    {signed : SignedRewardDistributorClawback}
    (hsigned : beginRewardDistributorClawback wallet request network = .ok signed)
    (hslot : coinId request.commitmentSlot.coin = coinId recovery.slot.coin) (peak : Nat) :
    signed.submit.run source.answer i ≠ .ok peak := by
  intro hsubmitted
  rw [SignedRewardDistributorClawback.submit, submitSigned] at hsubmitted
  obtain ⟨height, hheight, hsubmitted⟩ := run_bind_eq_ok.1 hsubmitted
  obtain ⟨_, hpushed, -⟩ := run_bind_eq_ok.1 hsubmitted
  rw [after_peakHeight hheight] at hpushed
  have hbefore := source.taken_before honest (pushMint_taken hpushed)
    (hslot ▸ clawback_spends_slot hsigned) h.included (clawback_spends_slot h.signed)
  exact absurd (hlate.trans_le (schedule.forward (Nat.le_succ i))) (Nat.not_lt.2 hbefore)

theorem recoveredUnder_le {commitments : List Commitment} {recoveries : List Recovery}
    (honest : HonestChain chain) (hfunded : ∀ commitment ∈ commitments, commitment.Funded)
    (hsettled : ∀ recovery ∈ recoveries, recovery.Settled chain)
    (hslots : ∀ recovery ∈ recoveries, ∃ commitment ∈ commitments,
      recovery.slot = commitment.slot)
    (hdistinct : recoveries.Pairwise fun first second => ¬ first.SameWithdrawal second)
    (hshare : ∀ recovery ∈ recoveries,
      recovery.request.distributor.constants.withdrawalShareBps ≤ 10000)
    (puzzleHash : Bytes32) :
    recoveredUnder recoveries puzzleHash ≤ fundedUnder commitments puzzleHash := by
  let own := recoveries.filter fun recovery => recovery.wallet.puzzleHash = puzzleHash
  let funded := commitments.filter fun commitment => commitment.funder.puzzleHash = puzzleHash
  have hown : ∀ recovery ∈ own, recovery ∈ recoveries ∧ recovery.wallet.puzzleHash = puzzleHash :=
    fun recovery hmem => by simpa using List.mem_filter.1 hmem
  have hnodup : (own.map Recovery.slot).Nodup := by
    refine List.pairwise_map.2 ((hdistinct.filter _).imp_of_mem fun {first second} hfirst hsecond
      hdiffers hsame => hdiffers ?_)
    exact (hsettled first (hown first hfirst).1).once honest
      (hsettled second (hown second hsecond).1)
      (by rw [hsame])
  have hsubset : own.map Recovery.slot ⊆ funded.map Commitment.slot := by
    intro slot hmem
    obtain ⟨recovery, hrecovery, rfl⟩ := List.mem_map.1 hmem
    obtain ⟨hsettles, hwallet⟩ := hown recovery hrecovery
    obtain ⟨commitment, hcommitment, hslot⟩ := hslots recovery hsettles
    have hfunder := (hsettled recovery hsettles).funder (hfunded commitment hcommitment) hslot
    exact List.mem_map.2 ⟨commitment,
      List.mem_filter.2 ⟨hcommitment, by simpa using hfunder.symm.trans hwallet⟩, hslot.symm⟩
  obtain ⟨slots, hperm, hsublist⟩ := hnodup.subperm hsubset
  calc recoveredUnder recoveries puzzleHash
      ≤ (own.map fun recovery => recovery.slot.value.rewards).sum :=
        List.sum_le_sum fun recovery hmem =>
          (hsettled recovery (hown recovery hmem).1).recovered_le
            (hshare recovery (hown recovery hmem).1)
    _ = (slots.map fun slot => slot.value.rewards).sum := by
        rw [(hperm.map _).sum_eq, List.map_map]
        rfl
    _ ≤ ((funded.map Commitment.slot).map fun slot => slot.value.rewards).sum :=
        (hsublist.map _).sum_le_sum fun _ _ => Nat.zero_le _
    _ = fundedUnder commitments puzzleHash := by
        rw [List.map_map]
        rfl

end Settled

theorem stranger_refused {request : RewardDistributorClawbackRequest} {commitment : Commitment}
    (hslot : request.commitmentSlot = commitment.slot) (hfunded : commitment.Funded)
    (hstranger : wallet.puzzleHash ≠ commitment.funder.puzzleHash) :
    ∃ e ∈ [DoorError.clawbackUnownedCoin, .clawbackPendingSpendPopulated, .clawbackNotAuthority],
      judgeClawback wallet request = .error e ∧
        beginRewardDistributorClawback wallet request network = .error e := by
  have hauthority : request.commitmentSlot.value.clawbackPh ≠ wallet.puzzleHash := by
    rw [hslot, hfunded.authority]
    exact hstranger.symm
  have hjudged : ∃ e ∈ [DoorError.clawbackUnownedCoin, .clawbackPendingSpendPopulated,
      .clawbackNotAuthority], judgeClawback wallet request = .error e := by
    rw [judgeClawback]
    by_cases hunowned : request.clawbackCoin.puzzleHash ≠ wallet.puzzleHash
    · exact ⟨.clawbackUnownedCoin, by simp, by rw [refuseWhen, if_pos hunowned]; rfl⟩
    by_cases hpending : request.distributor.pendingActions.length ≠ 0 ∨
        request.distributor.pendingOtherCats.length ≠ 0
    · refine ⟨.clawbackPendingSpendPopulated, by simp, ?_⟩
      rw [refuseWhen, if_neg hunowned, refuseWhen, if_pos hpending]
      rfl
    · refine ⟨.clawbackNotAuthority, by simp, ?_⟩
      rw [refuseWhen, if_neg hunowned, refuseWhen, if_neg hpending, refuseWhen, if_pos hauthority]
      rfl
  obtain ⟨e, hmem, he⟩ := hjudged
  refine ⟨e, hmem, he, ?_⟩
  rw [beginRewardDistributorClawback, he]
  rfl

theorem funder_recognised {request : RewardDistributorClawbackRequest} {commitment : Commitment}
    (hslot : request.commitmentSlot = commitment.slot) (hfunded : commitment.Funded)
    (hfunder : wallet.puzzleHash = commitment.funder.puzzleHash) :
    beginRewardDistributorClawback wallet request network ≠ .error .clawbackNotAuthority := by
  have hauthority : request.commitmentSlot.value.clawbackPh = wallet.puzzleHash := by
    rw [hslot, hfunded.authority, hfunder]
  have hjudged : RefusesWith (· ≠ .clawbackNotAuthority) (judgeClawback wallet request) := by
    have hown : refuseWhen (request.commitmentSlot.value.clawbackPh ≠ wallet.puzzleHash)
        DoorError.clawbackNotAuthority = .ok () := refuseWhen_ok.2 (not_not.2 hauthority)
    rw [judgeClawback, hown]
    exact (refusesWith_refuseWhen (by simp)).bind fun _ =>
      (refusesWith_refuseWhen (by simp)).bind fun _ => refusesWith_ok.bind fun _ =>
        (refusesWith_refuseWhen (by simp)).bind fun _ => refusesWith_refuseWhen (by simp)
  have hstaged : RefusesWith (· ≠ .clawbackNotAuthority)
      ((withdrawCommittedIncentives request.distributor request.commitmentSlot request.rewardSlot
        wallet.puzzleHash request.observed).mapError mapRewardsError) := by
    refine refusesWith_mapError fun refusal hrefused => ?_
    cases refusal with
    | notTheClawbackAuthority =>
        exact absurd hauthority (withdraw_refuses _ _ _ _ _ hrefused)
    | driverShareNotRepresentable rewards bps => simp [mapRewardsError]
    | driverShareDisagrees => simp [mapRewardsError]
    | commitmentEpochStarted start peak => simp [mapRewardsError]
    | other display => simp [mapRewardsError]
  have hplain {α : Type} {what : String} {result : Except String α} :
      RefusesWith (· ≠ .clawbackNotAuthority) (result.mapError (buildFailed what)) :=
    refusesWith_mapError fun e _ => by simp [buildFailed]
  have hmint {α : Type} {result : Except MintError α} :
      RefusesWith (· ≠ .clawbackNotAuthority) (result.mapError DoorError.mint) :=
    refusesWith_mapError fun e _ => by simp
  intro hrefused
  refine RefusesWith.bind hjudged (fun _ => ?_) _ hrefused rfl
  refine RefusesWith.bind ?_ fun built => hmint.bind fun _ => hmint.bind fun _ => refusesWith_ok
  rw [buildClawback]
  exact hstaged.bind fun staged => hplain.bind fun inner => hplain.bind fun spend =>
    hplain.bind fun spends => refusesWith_ok

end Doors

theorem commitments_return_to_their_funders [CoinHash] [Clvm] [DigDrivers] [ChiaBls]
    [DoorDrivers] {chain : Chain} {commitments : List Commitment} {recoveries : List Recovery}
    (honest : HonestChain chain) (hfunded : ∀ commitment ∈ commitments, commitment.Funded)
    (hsettled : ∀ recovery ∈ recoveries, recovery.Settled chain) :
    (∀ recovery ∈ recoveries, ∀ commitment ∈ commitments, recovery.slot = commitment.slot →
        recovery.wallet.puzzleHash = commitment.funder.puzzleHash) ∧
      (∀ first ∈ recoveries, ∀ second ∈ recoveries,
        coinId first.slot.coin = coinId second.slot.coin → first.SameWithdrawal second) ∧
      (∀ recovery ∈ recoveries, ∀ (schedule : Schedule) (source : HonestSource chain schedule) i
          wallet request network signed peak, recovery.height < schedule.moment i →
        beginRewardDistributorClawback wallet request network = .ok signed →
        coinId request.commitmentSlot.coin = coinId recovery.slot.coin →
          signed.submit.run source.answer i ≠ .ok peak) ∧
      ((∀ recovery ∈ recoveries, ∃ commitment ∈ commitments, recovery.slot = commitment.slot) →
        (recoveries.Pairwise fun first second => ¬ first.SameWithdrawal second) →
        (∀ recovery ∈ recoveries,
          recovery.request.distributor.constants.withdrawalShareBps ≤ 10000) →
        ∀ puzzleHash, recoveredUnder recoveries puzzleHash ≤ fundedUnder commitments puzzleHash) ∧
      ∀ commitment ∈ commitments, ∀ wallet network request,
        request.commitmentSlot = commitment.slot →
          (wallet.puzzleHash ≠ commitment.funder.puzzleHash →
            ∃ e ∈ [DoorError.clawbackUnownedCoin, .clawbackPendingSpendPopulated,
                .clawbackNotAuthority],
              judgeClawback wallet request = .error e ∧
                beginRewardDistributorClawback wallet request network = .error e) ∧
          (wallet.puzzleHash = commitment.funder.puzzleHash →
            beginRewardDistributorClawback wallet request network ≠
              .error .clawbackNotAuthority) := by
  refine ⟨fun recovery hmem commitment hcommitment =>
      (hsettled recovery hmem).funder (hfunded commitment hcommitment),
    fun first hfirst second hsecond =>
      (hsettled first hfirst).once honest (hsettled second hsecond),
    fun recovery hmem schedule source i wallet request network signed peak hlate hsigned hslot =>
      (hsettled recovery hmem).refuses_later honest source hlate hsigned hslot peak,
    fun hslots hdistinct hshare =>
      recoveredUnder_le honest hfunded hsettled hslots hdistinct hshare,
    ?_⟩
  intro commitment hmem wallet network request hslot
  exact ⟨stranger_refused hslot (hfunded commitment hmem),
    funder_recognised hslot (hfunded commitment hmem)⟩

section Example

def deskSlot : CommitmentSlot := ⟨⟨2, 53, 0⟩, ⟨900, 5, 20⟩⟩

def deskClawback : letI := pairHash; letI := creatingClvm; letI := deskDoors;
    RewardDistributorClawbackRequest :=
  letI := pairHash
  letI := creatingClvm
  letI := deskDoors
  { distributor := deskDistributor
    commitmentSlot := deskSlot
    rewardSlot := ⟨⟨2, 54, 0⟩, 900, 60⟩
    clawbackCoin := ⟨3, 5, 1⟩
    observed := ⟨850⟩ }

def clawedBackSpends : List CoinSpend :=
  letI := pairHash
  letI := creatingClvm
  letI := signingDrivers
  letI := exactBls
  letI := deskDoors
  ((beginRewardDistributorClawback gateWallet deskClawback ⟨7⟩).toOption.map
    fun signed => signed.bundle.coinSpends).getD []

def clawedBackChain : Chain := [⟨[], []⟩, ⟨[], clawedBackSpends⟩]

theorem commitments_return_to_their_funders_desk :
    letI := pairHash; letI := creatingClvm; letI := signingDrivers; letI := exactBls
    letI := deskDoors
    ∃ recovery : Recovery, recovery.Settled clawedBackChain ∧
      (Commitment.mk gateWallet deskSlot).Funded ∧ recovery.slot = deskSlot ∧
      recovery.signed.recoveredBaseUnits = 18 ∧ recoveredUnder [recovery] 5 ≤ 20 := by
  let _ := pairHash
  let _ := creatingClvm
  let _ := signingDrivers
  let _ := exactBls
  let _ := deskDoors
  have hrefilled : (beginRewardDistributorRefill gateWallet deskRefill ⟨7⟩).toOption.any
      fun _ => true := by
    decide +kernel
  have hclawed : (beginRewardDistributorClawback gateWallet deskClawback ⟨7⟩).toOption.any
      fun signed => signed.recoveredBaseUnits = 18 := by
    decide +kernel
  obtain ⟨refill, hrefill, -⟩ := ok_of_any hrefilled
  obtain ⟨clawback, hclawback, hamount⟩ := ok_of_any hclawed
  have honest : HonestChain clawedBackChain := FreshChain.honest (by decide +kernel)
  have hfunded : (Commitment.mk gateWallet deskSlot).Funded :=
    ⟨deskRefill, ⟨7⟩, refill, _, _, hrefill, rfl, rfl⟩
  have hspends : clawback.bundle.coinSpends = clawedBackSpends := by
    rw [clawedBackSpends, hclawback]
    rfl
  have hsettled : (Recovery.mk gateWallet deskClawback ⟨7⟩ clawback 1).Settled clawedBackChain :=
    ⟨hclawback, ⟨[], clawedBackSpends⟩, rfl, hspends ▸ List.Subset.refl _⟩
  obtain ⟨-, -, -, hbounded, -⟩ := commitments_return_to_their_funders honest
    (List.forall_mem_singleton.2 hfunded) (List.forall_mem_singleton.2 hsettled)
  refine ⟨_, hsettled, hfunded, rfl, of_decide_eq_true hamount, hbounded ?_ ?_ ?_ 5⟩
  · exact List.forall_mem_singleton.2 ⟨_, List.mem_singleton_self _, rfl⟩
  · exact List.pairwise_singleton _ _
  · exact List.forall_mem_singleton.2 (by decide : 9000 ≤ 10000)

end Example

end DigAccount
