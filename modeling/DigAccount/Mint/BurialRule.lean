import DigAccount.Mint.Did
import DigAccount.Mint.RewardDistributor
import DigAccount.Wallet.Transfer

namespace DigAccount

theorem minConfirmationDepth_le_depthOf {peak height : Nat} :
    minConfirmationDepth ≤ depthOf peak height ↔ height + minConfirmationDepth - 1 ≤ peak := by
  rw [le_depthOf (by decide)]
  simp only [minConfirmationDepth]
  omega

section Rule

variable [CoinHash]

structure Buried (expected : Bytes32) (pushedAt : Nat) (record : CoinRecord) (peak height : Nat) :
    Prop where
  expected_coin : coinId record.coin = expected
  confirmed : record.confirmedHeight = some height
  not_genesis : 0 < height
  not_before_push : pushedAt ≤ height
  deep : height + minConfirmationDepth - 1 ≤ peak

variable {expected : Bytes32} {pushed peak peak' height : Nat} {record : CoinRecord}

theorem Buried.deepens (h : Buried expected pushed record peak height) (hpeak : peak ≤ peak') :
    Buried expected pushed record peak' height :=
  { h with deep := h.deep.trans hpeak }

theorem buriedHeight_eq_some_iff_buried :
    buriedHeight expected pushed record peak = some height ↔
      Buried expected pushed record peak height := by
  rw [buriedHeight_eq_some, minConfirmationDepth_le_depthOf]
  constructor
  · rintro ⟨hcoin, hheight, hpos, hpush, hdeep⟩
    exact ⟨hcoin, hheight, Nat.pos_of_ne_zero hpos, hpush, hdeep⟩
  · rintro ⟨hcoin, hheight, hpos, hpush, hdeep⟩
    exact ⟨hcoin, hheight, hpos.ne', hpush, hdeep⟩

theorem ConfirmedTransfer.fromConfirmed_height {pending : PendingTransfer} :
    (ConfirmedTransfer.fromConfirmed pending record peak).map (·.confirmedHeight) =
      buriedHeight pending.paymentCoinId pending.pushedAtHeight record peak := by
  rw [ConfirmedTransfer.fromConfirmed]
  cases buriedHeight pending.paymentCoinId pending.pushedAtHeight record peak <;> rfl

theorem MintedDid.fromConfirmed_height [DidEncoding] {pending : PendingMint} :
    (MintedDid.fromConfirmed pending record peak).map (·.confirmedHeight) =
      buriedHeight pending.didCoinId pending.pushedAtHeight record peak := by
  rw [MintedDid.fromConfirmed]
  split <;> simp_all

theorem ConfirmedStore.fromConfirmed_height {pending : PendingStoreLaunch} :
    (ConfirmedStore.fromConfirmed pending record peak).map (·.confirmedHeight) =
      buriedHeight pending.storeCoinId pending.pushedAtHeight record peak := by
  rw [ConfirmedStore.fromConfirmed]
  split <;> simp_all

theorem PendingRewardDistributor.check_eq_ok {pending : PendingRewardDistributor}
    {discovered : DiscoveredDistributor} :
    pending.check record discovered peak = .ok () ↔
      (∃ height, Buried pending.distributorLauncherId pending.pushedAtHeight record peak height) ∧
        discovered.launcherId = pending.distributorLauncherId ∧
          discovered.generation = pending.generation := by
  rw [check]
  by_cases hcoin : coinId record.coin = pending.distributorLauncherId
  · rw [if_neg (not_not.2 hcoin)]
    cases hheight : record.confirmedHeight with
    | none =>
        refine iff_of_false (by simp) ?_
        rintro ⟨⟨height, hburied⟩, -⟩
        rw [hburied.confirmed] at hheight
        cases hheight
    | some height =>
        simp only
        constructor
        · intro h
          split_ifs at h with hgenesis hpush hdeep hlauncher hgeneration
          have hdepth := minConfirmationDepth_le_depthOf.1 (Nat.le_of_not_lt hdeep)
          exact ⟨⟨height, hcoin, hheight, Nat.pos_of_ne_zero hgenesis, Nat.le_of_not_lt hpush,
            hdepth⟩, not_not.1 hlauncher, not_not.1 hgeneration⟩
        · rintro ⟨⟨buried, hburied⟩, hlauncher, hgeneration⟩
          cases hburied.confirmed.symm.trans hheight
          have hdeep := Nat.not_lt.2 (minConfirmationDepth_le_depthOf.2 hburied.deep)
          have hpush := Nat.not_lt.2 hburied.not_before_push
          simp [hburied.not_genesis.ne', hpush, hdeep, hlauncher, hgeneration]
  · refine iff_of_false (by simp [hcoin]) ?_
    rintro ⟨⟨height, hburied⟩, -⟩
    exact hcoin hburied.expected_coin

theorem PendingRewardDistributor.fromConfirmed_height {pending : PendingRewardDistributor}
    {discovered : DiscoveredDistributor} :
    (pending.fromConfirmed record discovered peak).map (·.confirmedHeight) = some height ↔
      pending.check record discovered peak = .ok () ∧ record.confirmedHeight = some height := by
  rw [fromConfirmed]
  cases pending.check record discovered peak <;> simp

variable [DidEncoding]

inductive Awaited where
  | payment (pending : PendingTransfer)
  | did (pending : PendingMint)
  | store (pending : PendingStoreLaunch)
  | distributor (pending : PendingRewardDistributor) (discovered : DiscoveredDistributor)

namespace Awaited

def coin : Awaited → Bytes32
  | payment pending => pending.paymentCoinId
  | did pending => pending.didCoinId
  | store pending => pending.storeCoinId
  | distributor pending _ => pending.distributorLauncherId

def pushedAt : Awaited → Nat
  | payment pending => pending.pushedAtHeight
  | did pending => pending.pushedAtHeight
  | store pending => pending.pushedAtHeight
  | distributor pending _ => pending.pushedAtHeight

def Described : Awaited → Prop
  | distributor pending discovered =>
      discovered.launcherId = pending.distributorLauncherId ∧
        discovered.generation = pending.generation
  | _ => True

def accepted (record : CoinRecord) (peak : Nat) : Awaited → Option Nat
  | payment pending =>
      (ConfirmedTransfer.fromConfirmed pending record peak).map (·.confirmedHeight)
  | did pending => (MintedDid.fromConfirmed pending record peak).map (·.confirmedHeight)
  | store pending => (ConfirmedStore.fromConfirmed pending record peak).map (·.confirmedHeight)
  | distributor pending discovered =>
      (pending.fromConfirmed record discovered peak).map (·.confirmedHeight)

theorem accepted_eq_some {awaited : Awaited} :
    awaited.accepted record peak = some height ↔
      awaited.Described ∧ Buried awaited.coin awaited.pushedAt record peak height := by
  cases awaited with
  | payment pending =>
      rw [accepted, ConfirmedTransfer.fromConfirmed_height, buriedHeight_eq_some_iff_buried]
      exact (and_iff_right trivial).symm
  | did pending =>
      rw [accepted, MintedDid.fromConfirmed_height, buriedHeight_eq_some_iff_buried]
      exact (and_iff_right trivial).symm
  | store pending =>
      rw [accepted, ConfirmedStore.fromConfirmed_height, buriedHeight_eq_some_iff_buried]
      exact (and_iff_right trivial).symm
  | distributor pending discovered =>
      rw [accepted, PendingRewardDistributor.fromConfirmed_height,
        PendingRewardDistributor.check_eq_ok]
      constructor
      · rintro ⟨⟨⟨deep, hburied⟩, hdescribed⟩, hheight⟩
        cases hburied.confirmed.symm.trans hheight
        exact ⟨hdescribed, hburied⟩
      · rintro ⟨hdescribed, hburied⟩
        exact ⟨⟨⟨height, hburied⟩, hdescribed⟩, hburied.confirmed⟩

theorem accepted_agree {awaited other : Awaited} (hdescribed : awaited.Described)
    (hother : other.Described) (hcoin : awaited.coin = other.coin)
    (hpushed : awaited.pushedAt = other.pushedAt) :
    awaited.accepted record peak = other.accepted record peak := by
  apply Option.ext
  intro height
  rw [accepted_eq_some, accepted_eq_some, hcoin, hpushed]
  exact and_congr_left fun _ => iff_of_true hdescribed hother

theorem accepted_mono {awaited : Awaited} (hpeak : peak ≤ peak')
    (h : awaited.accepted record peak = some height) :
    awaited.accepted record peak' = some height := by
  rw [accepted_eq_some] at h ⊢
  exact ⟨h.1, h.2.deepens hpeak⟩

end Awaited

theorem one_burial_rule (awaited other : Awaited) (record : CoinRecord) (peak height : Nat)
    (hdescribed : awaited.Described) :
    (awaited.accepted record peak = some height ↔
        coinId record.coin = awaited.coin ∧ record.confirmedHeight = some height ∧ 0 < height ∧
          awaited.pushedAt ≤ height ∧ height + minConfirmationDepth - 1 ≤ peak) ∧
      (other.Described → other.coin = awaited.coin → other.pushedAt = awaited.pushedAt →
        other.accepted record peak = awaited.accepted record peak) ∧
      (∀ peak', peak ≤ peak' → awaited.accepted record peak = some height →
        awaited.accepted record peak' = some height) ∧
      ∀ (pending : PendingRewardDistributor) (discovered : DiscoveredDistributor),
        pending.check record discovered peak = .ok () → record.confirmedHeight.isSome := by
  refine ⟨?_, ?_, ?_, ?_⟩
  · rw [Awaited.accepted_eq_some]
    constructor
    · rintro ⟨-, hcoin, hheight, hpos, hpush, hdeep⟩
      exact ⟨hcoin, hheight, hpos, hpush, hdeep⟩
    · rintro ⟨hcoin, hheight, hpos, hpush, hdeep⟩
      exact ⟨hdescribed, hcoin, hheight, hpos, hpush, hdeep⟩
  · intro hother hcoin hpushed
    exact Awaited.accepted_agree hother hdescribed hcoin hpushed
  · intro peak' hpeak h
    exact Awaited.accepted_mono hpeak h
  · intro pending discovered h
    exact PendingRewardDistributor.check_ok_confirmed h

end Rule

section Example

def lastHeights : CoinRecord := ⟨namedCoin 7, some 4294967290, none⟩

def awaitedDid : PendingMint := ⟨5, 7, 3, 4294967290⟩

def awaitedDistributor : PendingRewardDistributor := ⟨7, 6, 3, 4, ⟨1, 2⟩, 4294967290⟩

theorem one_burial_rule_lastHeights :
    letI := amountNames
    letI := idAsDid
    (Awaited.did awaitedDid).accepted lastHeights u32Max = some 4294967290 ∧
      (Awaited.distributor awaitedDistributor ⟨7, ⟨1, 2⟩⟩).accepted lastHeights u32Max =
        (Awaited.did awaitedDid).accepted lastHeights u32Max ∧
      (Awaited.did awaitedDid).accepted lastHeights u32Max = some 4294967290 ∧
      lastHeights.confirmedHeight.isSome := by
  let _ := amountNames
  let _ := idAsDid
  obtain ⟨hrule, hagree, hdeeper, hexpect⟩ := one_burial_rule (.did awaitedDid)
    (.distributor awaitedDistributor ⟨7, ⟨1, 2⟩⟩) lastHeights u32Max 4294967290 trivial
  have haccepted := hrule.2 (by decide)
  exact ⟨haccepted, hagree ⟨rfl, rfl⟩ rfl rfl, hdeeper u32Max le_rfl haccepted,
    hexpect awaitedDistributor ⟨7, ⟨1, 2⟩⟩ rfl⟩

end Example

end DigAccount
